import BlockTemplates.Decimal.Notation
import BlockTemplates.Expr.Value
import BlockTemplates.Text.Quoted

/-! The text of values. On its own a string is shown as it is and nothing is shown for an undefined
value; inside a list or a table strings are quoted and everything has a text. -/

namespace BlockTemplates.Expr

def Builtin.name : Builtin → String
  | forEach => "forEach"
  | execute => "execute"
  | renderIf => "renderIf"
  | range => "range"
  | dict => "dict"
  | «namespace» => "namespace"
  | debug => "debug"

def Builtin.all : List Builtin := [forEach, execute, renderIf, range, dict, «namespace», debug]

def Callable.name : Callable → String
  | builtin f => f.name
  | host name => name
  | emitter _ => "emit"

namespace Value

def boolText (b : Bool) : String := if b then "True" else "False"

def bytesText (codes : List Nat) : String := String.ofList (codes.map Char.ofNat)

def shownScalar : Value → String
  | undefined => "undefined"
  | none => "None"
  | bool b => boolText b
  | int n => Decimal.intText n
  | float x => Decimal.compact.write x
  | string _ s => Text.quoted s
  | bytes codes => "b" ++ Text.quoted (bytesText codes)
  | function f => f.name
  | _ => ""

mutual

def shown : Value → String
  | list items => "[" ++ ", ".intercalate (shownItems items) ++ "]"
  | sequence _ items => "[" ++ ", ".intercalate (shownItems items) ++ "]"
  | table _ entries => "\x7b" ++ ", ".intercalate (shownEntries entries) ++ "\x7d"
  | value => value.shownScalar

def shownItems : List Value → List String
  | [] => []
  | first :: rest => shown first :: shownItems rest

def shownEntries : List (Value × Value) → List String
  | [] => []
  | (key, value) :: rest => (shown key ++ ": " ++ shown value) :: shownEntries rest

end

def display : Value → String
  | undefined => ""
  | float x => Decimal.fractional.write x
  | string _ s => s
  | bytes codes => Text.ofUtf8 codes
  | value => value.shown

def lineBreak (level : Nat) : String := String.ofList ('\n' :: List.replicate (4 * level) ' ')

/-- Parts between brackets, one a line and each with a comma after it. -/
def spread (level : Nat) (opening closing : String) (parts : List String) : String :=
  if parts.isEmpty then opening ++ closing
  else
    opening ++ String.join (parts.map (fun part => lineBreak (level + 1) ++ part ++ ","))
      ++ lineBreak level ++ closing

mutual

def spreadText (level : Nat) : Value → String
  | list items => spread level "[" "]" (spreadItems (level + 1) items)
  | sequence _ items => spread level "[" "]" (spreadItems (level + 1) items)
  | table _ entries => spread level "\x7b" "\x7d" (spreadEntries (level + 1) entries)
  | value => value.shownScalar

def spreadItems (level : Nat) : List Value → List String
  | [] => []
  | first :: rest => spreadText level first :: spreadItems level rest

def spreadEntries (level : Nat) : List (Value × Value) → List String
  | [] => []
  | (key, value) :: rest =>
    (spreadText level key ++ ": " ++ spreadText level value) :: spreadEntries level rest

end

/-- The text that a value adds to a page. Absent values add none, and numbers that are whole are
written without a fraction. -/
def pageText? (value : Value) : Option String :=
  match value with
  | undefined => Option.none
  | none => Option.none
  | int n => some (Decimal.intText n)
  | float x => some (Decimal.plain.write x)
  | value => some value.display

end Value

end BlockTemplates.Expr
