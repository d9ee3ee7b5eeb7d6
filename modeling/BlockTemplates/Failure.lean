import BlockTemplates.Decimal.Notation
import BlockTemplates.Expr.Error
import BlockTemplates.Source.Split
import BlockTemplates.SystemError

/-! Everything that can fail, as causes. The message, the code and the help of each cause are
given here and nowhere else. -/

namespace BlockTemplates

/-- What a template was looked up as. -/
inductive TemplateRole where
  | template
  | extendTarget
  deriving Repr, DecidableEq, Inhabited

def TemplateRole.description : TemplateRole → String
  | template => "HTML template"
  | extendTarget => "HTML template to extend from"

inductive BundleProblem where
  | malformed
  | unsupportedVersion (found supported : Nat)
  | chunkCount (template : String) (literals expressions : Nat)
  deriving Repr, DecidableEq, Inhabited

inductive ConfigProblem where
  | malformed
  | badPattern (pattern : String)
  deriving Repr, DecidableEq, Inhabited

inductive DataProblem where
  | unreadable (error : SystemError)
  | malformed
  | notATable
  deriving Repr, DecidableEq, Inhabited

inductive Failure where
  | io (error : SystemError)
  | templateNotFound (name : String) (role : TemplateRole)
  | templateFolderInvalid (path : String)
  | templateSyntax (template : String) (opened : Source.Position)
  | expression (template : String) (error : Expr.Error)
  | bundle (problem : BundleProblem)
  | config (problem : ConfigProblem)
  | dataFile (path : String) (problem : DataProblem)
  | unsupportedFormat (format : String)
  | unconvertibleFloat (path : String) (value : String)
  | symlinkCycle (path : String)
  deriving Repr, DecidableEq, Inhabited

abbrev Result (α : Type) := Except Failure α

def BundleProblem.detail : BundleProblem → String
  | malformed => ""
  | unsupportedVersion found supported =>
    ": unsupported format version " ++ Decimal.natText found ++ " (expected "
      ++ Decimal.natText supported ++ ")"
  | chunkCount template literals expressions =>
    ": template `" ++ template ++ "` has " ++ Decimal.natText literals
      ++ " literal chunk(s) for " ++ Decimal.natText expressions ++ " expression(s)"

def ConfigProblem.detail : ConfigProblem → String
  | malformed => ""
  | badPattern pattern => ": invalid exclude pattern `" ++ pattern ++ "`"

def DataProblem.detail : DataProblem → String
  | unreadable error => ": " ++ error.message
  | malformed => ""
  | notATable => ": render data must be a table of named values"

namespace Failure

def message : Failure → String
  | io error => error.message
  | templateNotFound name role => "no such " ++ role.description ++ ": `" ++ name ++ "`"
  | templateFolderInvalid path => "template folder is not a valid directory: `" ++ path ++ "`"
  | templateSyntax template opened =>
    "unterminated expression in template `" ++ template ++ "` at "
      ++ Decimal.natText opened.line ++ ":" ++ Decimal.natText opened.column
      ++ ": missing closing `\x7d` for `$\x7b`"
  | expression template _ => "expression failed in template `" ++ template ++ "`"
  | bundle problem => "invalid template bundle" ++ problem.detail
  | config problem => "failed to parse config file" ++ problem.detail
  | dataFile path problem => "failed to load data file `" ++ path ++ "`" ++ problem.detail
  | unsupportedFormat format => "unsupported data file format: `" ++ format ++ "`"
  | unconvertibleFloat path value =>
    "unconvertible float value in data file `" ++ path ++ "`: " ++ value
  | symlinkCycle path => "symlink cycle detected at: `" ++ path ++ "`"

def code : Failure → String
  | io _ => "forge::io_error"
  | templateNotFound _ _ => "forge::template_not_found"
  | templateFolderInvalid _ => "forge::template_folder_invalid"
  | templateSyntax _ _ => "forge::template_syntax"
  | expression _ _ => "forge::expression"
  | bundle _ => "forge::bundle"
  | config _ => "forge::config_parse"
  | dataFile _ _ => "forge::data_file"
  | unsupportedFormat _ => "forge::unsupported_format"
  | unconvertibleFloat _ _ => "forge::unconvertible_float"
  | symlinkCycle _ => "forge::symlink_cycle"

def help? : Failure → Option String
  | io _ => none
  | templateNotFound _ _ =>
    some ("template names are paths relative to the template folder without the suffix, "
      ++ "e.g. `pages/home`")
  | templateFolderInvalid _ =>
    some "pass an existing directory or set `templates.root` in forge.toml"
  | templateSyntax _ _ =>
    some ("close the expression with a matching `\x7d` or escape a literal `$\x7b` as "
      ++ "`\\$\x7b`")
  | expression _ _ => none
  | bundle _ => some "rebuild the bundle with `forge-templates build <folder> <file>`"
  | config _ =>
    some "check that forge.toml is valid TOML with [templates] and/or [data] sections"
  | dataFile _ _ => none
  | unsupportedFormat _ => some "supported formats: text, json, toml, yaml, yml"
  | unconvertibleFloat _ _ => some "NaN and Infinity are not valid JSON numbers"
  | symlinkCycle _ => some "remove the circular symlink or exclude this path"

def missingTemplate? : Failure → Option String
  | templateNotFound name _ => some name
  | _ => none

end Failure

end BlockTemplates
