import BlockTemplates.Failure
import BlockTemplates.Files.Glob
import BlockTemplates.Files.Path

/-! What is left out of a template folder. Patterns follow the rules of ignore files: the last one
that matches a path decides, and one that starts with an exclamation mark keeps what it matches. -/

namespace BlockTemplates

structure ExclusionRule where
  glob : Glob
  keeps : Bool
  onlyFolders : Bool
  deriving Inhabited

structure Exclusion where
  folder : String
  rules : List ExclusionRule
  deriving Inhabited

def stripText (head text : String) : String :=
  ((Text.stripStart? head.toList text.toList).map String.ofList).getD text

structure ExclusionLine where
  pattern : List Char
  keeps : Bool
  /-- The pattern is matched from the folder on and not at any depth. -/
  anchored : Bool

def ExclusionLine.ofLine (line : List Char) : ExclusionLine :=
  match line with
  | '\\' :: '!' :: rest => ⟨'!' :: rest, false, false⟩
  | '\\' :: '#' :: rest => ⟨'#' :: rest, false, false⟩
  | '!' :: '/' :: rest => ⟨rest, true, true⟩
  | '!' :: rest => ⟨rest, true, false⟩
  | '/' :: rest => ⟨rest, false, true⟩
  | rest => ⟨rest, false, false⟩

/-- A line without the blanks at its end, unless the last one is escaped. -/
def trimLine (line : List Char) : List Char :=
  if (Text.stripEnd? ['\\', ' '] line).isSome then line else Text.trimEnd line

/-- A pattern without the slash at its end, which may be escaped, and whether there was one. -/
def dropFolderMark (pattern : List Char) : List Char × Bool :=
  match Text.stripEnd? ['/'] pattern with
  | none => (pattern, false)
  | some rest => ((Text.stripEnd? ['\\'] rest).getD rest, true)

/-- The pattern for whole paths that a pattern of a line stands for. -/
def wholePattern (anchored : Bool) (pattern : List Char) : List Char :=
  let anywhere := !anchored && !pattern.contains '/' && pattern ≠ ['*', '*']
  let placed := if anywhere then ['*', '*', '/'] ++ pattern else pattern
  if (Text.stripEnd? ['/', '*', '*'] placed).isSome then placed ++ ['/', '*'] else placed

/-- The rules that a line adds: none for a blank line or a remark. -/
def exclusionRules? (line : String) : Option (List ExclusionRule) :=
  let trimmed := trimLine line.toList
  if line.toList.head? = some '#' || trimmed.isEmpty then some []
  else
    let read := ExclusionLine.ofLine trimmed
    let (pattern, onlyFolders) := dropFolderMark read.pattern
    (Glob.ofText? (String.ofList (wholePattern read.anchored pattern))).map (fun glob =>
      [⟨glob, read.keeps, onlyFolders⟩])

namespace Exclusion

def ofPatterns (folder : Path) (patterns : List String) : Result Exclusion := do
  let rules ← patterns.mapM fun pattern =>
    match exclusionRules? pattern with
    | some rules => Except.ok rules
    | none => .error (.config (.badPattern pattern))
  return ⟨stripText "./" folder.text, rules.flatten⟩

def relative (exclusion : Exclusion) (path : Path) : String :=
  let text := stripText "./" path.text
  if exclusion.folder = "." || !text.toList.contains '/' then text
  else
    match Text.stripStart? exclusion.folder.toList text.toList with
    | none => text
    | some rest => stripText "/" (String.ofList rest)

def ignores (exclusion : Exclusion) (path : Path) (isFolder : Bool) : Bool :=
  let text := exclusion.relative path
  let applies (rule : ExclusionRule) : Bool :=
    (!rule.onlyFolders || isFolder) && rule.glob.isMatch text
  match exclusion.rules.reverse.find? applies with
  | some rule => !rule.keeps
  | none => false

end Exclusion

end BlockTemplates
