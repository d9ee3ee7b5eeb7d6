import BlockTemplates.Files.Path

/-! What the program can be asked to do on its command line. -/

namespace BlockTemplates

inductive Command where
  /-- The templates of a folder become a bundle, again and again when `watch`. -/
  | build (folder output : Path) (minified watch : Bool)
  | render (name : String) (templates bundle data : Option Path) (minified : Bool)
  | list (templates : Option Path)
  deriving Repr, DecidableEq, Inhabited

structure CommandLine where
  command : Option Command
  /-- The folder of the project, if it is not the working folder. -/
  root : Option Path
  verbose : Bool
  noColor : Bool
  deriving Repr, DecidableEq, Inhabited

inductive Refusal where
  | missingArgument
  | conflict
  | unknownCommand
  | unknownArgument
  | invalidValue
  | tooManyValues
  | help
  | version
  deriving Repr, DecidableEq, Inhabited

def Refusal.exitCode : Refusal → Nat
  | help => 0
  | version => 0
  | _ => 2

def Refusal.message : Refusal → String
  | missingArgument => "error: an argument is missing"
  | conflict => "error: an argument cannot be used with another one or twice"
  | unknownCommand => "error: there is no such command"
  | unknownArgument => "error: there is no such argument"
  | invalidValue => "error: a value is missing"
  | tooManyValues => "error: an argument takes no value"
  | help =>
    "Usage: forge-templates [--path <PATH>] [--verbose] [--no-color] <COMMAND>\n\n"
      ++ "  build <FOLDER> <OUTPUT> [--minify-html] [--watch]\n"
      ++ "  render <NAME> [--templates <PATH> | --bundle <PATH>] [--data <PATH>] [--minify-html]\n"
      ++ "  list [--templates <PATH>]"
  | version => "forge-templates 0.3.0"

end BlockTemplates
