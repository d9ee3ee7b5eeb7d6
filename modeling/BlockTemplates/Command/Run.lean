import BlockTemplates.Command.Arguments
import BlockTemplates.Project.DataFile
import BlockTemplates.Project.Folder

/-! Carrying out commands on a file system. A run answers what it prints, its exit code, and the
file system after it. -/

namespace BlockTemplates

inductive Complaint where
  | line (text : String)
  | failure (cause : Failure)
  deriving Repr, DecidableEq, Inhabited

def Complaint.lines : Complaint → List String
  | line text => [text]
  | failure cause =>
    [cause.code, "", "  " ++ cause.message] ++ (cause.help?.map (fun help => "  help: " ++ help)).toList

structure Outcome where
  code : Nat
  output : String
  complaints : List Complaint
  files : FileSystem
  deriving Inhabited

inductive Emphasis where
  | red
  | green
  | dimmed
  | bold
  deriving Repr, DecidableEq, Inhabited

namespace Emphasis

def codes : Emphasis → String × String
  | red => ("31", "39")
  | green => ("32", "39")
  | dimmed => ("2", "0")
  | bold => ("1", "0")

def apply (emphasis : Emphasis) (color : Bool) (text : String) : String :=
  if color then "\x1b[" ++ emphasis.codes.1 ++ "m" ++ text ++ "\x1b[" ++ emphasis.codes.2 ++ "m" else text

end Emphasis

/-- What a run needs to know besides its command: the folder of the project, its configuration,
and whether emphasis is shown. -/
structure Setting where
  root : Path
  config : Option Config
  color : Bool

namespace Setting

def buildOptions (setting : Setting) (minified : Bool) : BuildOptions :=
  let options := (setting.config.map Config.buildOptions).getD {}
  { options with minified := options.minified || minified }

def templateFolder (setting : Setting) (given : Option Path) : Path :=
  match given with
  | some folder => setting.root.join folder
  | none => (setting.config.getD {}).templateRoot setting.root

def buildReport (setting : Setting) (count : Nat) (output : Path) : String :=
  Emphasis.green.apply setting.color "Build successful!" ++ " " ++ Decimal.natText count
    ++ " template(s) written to " ++ output.text ++ "\n\nExample usage:\n  "
    ++ Emphasis.dimmed.apply setting.color "$" ++ " forge-templates render <name> --bundle " ++ output.text
    ++ " --data data.json\n"

def build (setting : Setting) (files : FileSystem) (folder output : Path) (minified : Bool) : Outcome :=
  match Bundle.ofFolder files (setting.buildOptions minified) (setting.root.join folder) with
  | .error failure => unsuccessful files failure
  | .ok bundle =>
    let change := bundle.write files (setting.root.join output)
    match change.stopped with
    | some error => unsuccessful change.files (.io error)
    | none => ⟨0, setting.buildReport bundle.templates.size output, [], change.files⟩
where
  unsuccessful (files : FileSystem) (failure : Failure) : Outcome :=
    ⟨2, "", [.line (Emphasis.red.apply setting.color "Build not successful!"), .failure failure], files⟩

/-- The data to render with: that of the configured files, and over it that of the given file,
which must be a table. -/
def renderData (setting : Setting) (files : FileSystem) (given : Option Path) : Result Data := do
  let configured ← match setting.config with
    | some config => config.loadData files setting.root
    | none => pure []
  match given with
  | none => return Data.ofEntries configured
  | some path =>
    match ← loadDataFile files (setting.root.join path) with
    | .table entries => return Data.ofEntries (configured ++ entries)
    | _ => throw (.dataFile path.text .notATable)

def templateSet (setting : Setting) (files : FileSystem) (templates bundle : Option Path) (minified : Bool) :
    Result TemplateSet :=
  match bundle with
  | some path => do TemplateSet.ofBundle .plain (← Bundle.read files (setting.root.join path))
  | none =>
    TemplateSet.ofFolder .plain files (setting.buildOptions minified) (setting.templateFolder templates)

def page (setting : Setting) (files : FileSystem) (name : String) (templates bundle data : Option Path)
    (minified : Bool) : Result String := do
  let set ← setting.templateSet files templates bundle minified
  let data ← setting.renderData files data
  (set.render name data).result

def listLine (setting : Setting) (set : TemplateSet) (name : String) : String :=
  match set.declaredBase? name with
  | some base => "  " ++ name ++ " " ++ Emphasis.dimmed.apply setting.color "extends" ++ " " ++ base ++ "\n"
  | none => "  " ++ name ++ "\n"

def listing (setting : Setting) (files : FileSystem) (templates : Option Path) : Result String := do
  let set ← TemplateSet.ofFolder .plain files (setting.buildOptions false) (setting.templateFolder templates)
  if set.templates.isEmpty then return "No templates found.\n"
  else
    let lines := set.names.map (setting.listLine set)
    return Emphasis.bold.apply setting.color "Templates:" ++ "\n" ++ String.join lines ++ "\n"
      ++ Decimal.natText set.templates.size ++ " template(s)\n"

/-- A command is carried out. Building again when a file changes is not part of a run. -/
def run (setting : Setting) (files : FileSystem) : Command → Outcome
  | .build folder output minified _ => setting.build files folder output minified
  | .render name templates bundle data minified =>
    printed (setting.page files name templates bundle data minified)
  | .list templates => printed (setting.listing files templates)
where
  printed : Result String → Outcome
    | .ok output => ⟨0, output, [], files⟩
    | .error failure => ⟨2, "", [.failure failure], files⟩

end Setting

def FileSystem.workingPath (files : FileSystem) : Path := ⟨"/" ++ "/".intercalate files.working⟩

def CommandLine.rootFolder (line : CommandLine) (files : FileSystem) : Path :=
  line.root.getD files.workingPath

/-- A command line is carried out. `color` tells whether emphasis is shown unless it is turned off. -/
def CommandLine.run (line : CommandLine) (files : FileSystem) (color : Bool) : Outcome :=
  match line.command with
  | none =>
    ⟨1, "", [.line "No subcommand specified. Run \x60forge-templates --help\x60 for usage."], files⟩
  | some command =>
    let root := line.rootFolder files
    match Config.load files root with
    | .error failure => ⟨2, "", [.failure failure], files⟩
    | .ok config => Setting.run ⟨root, config, color && !line.noColor⟩ files command

def CommandLine.configPaths (line : CommandLine) (files : FileSystem) : List Path :=
  Config.candidates.map (line.rootFolder files).join

/-- The files and folders that a command line is about, apart from its configuration. -/
def CommandLine.paths (line : CommandLine) (files : FileSystem) : List Path :=
  let root := line.rootFolder files
  let config := ((Config.load files root).toOption.getD none).getD {}
  let setting : Setting := ⟨root, some config, false⟩
  match line.command with
  | none => []
  | some (.build folder output _ _) => [root.join folder, root.join output]
  | some (.list templates) => [setting.templateFolder templates]
  | some (.render _ templates bundle data _) =>
    let source := match bundle with
      | some path => root.join path
      | none => setting.templateFolder templates
    let configured := config.data.entries.map (fun entry => root.join entry.2.path)
    source :: configured ++ (data.map root.join).toList

def CommandLine.output? (line : CommandLine) (files : FileSystem) : Option Path :=
  match line.command with
  | some (.build _ output _ _) => some ((line.rootFolder files).join output)
  | _ => none

def runProgram (files : FileSystem) (color : Bool) (arguments : List String) : Outcome :=
  match CommandLine.ofArguments arguments with
  | .ok line => line.run files color
  | .error refusal => ⟨refusal.exitCode, "", [], files⟩

end BlockTemplates
