import BlockTemplates.Data
import BlockTemplates.Text.Utf8

/-! Values of expressions: the data that pages are rendered with and what arises from it. Besides
lists there are sequences, which only can be walked through, and of which some do not know their
length. Functions are named, so that values stay plain data. -/

namespace BlockTemplates.Expr

inductive Builtin where
  | forEach
  | execute
  | renderIf
  | range
  | dict
  | «namespace»
  | debug
  deriving Repr, DecidableEq, Inhabited

inductive Callable where
  | builtin (f : Builtin)
  | host (name : String)
  /-- What `execute` hands to its callback; the number tells which `execute`. -/
  | emitter (sink : Nat)
  deriving Repr, DecidableEq, Inhabited

/-- A value. The entries of a table are in increasing key order. -/
inductive Value where
  | undefined
  | none
  | bool (b : Bool)
  | int (n : Int)
  | float (x : Float)
  /-- Text; `safe` text is not escaped any more. -/
  | string (safe : Bool) (s : String)
  | bytes (codes : List Nat)
  | list (items : List Value)
  /-- Items to walk through; `sized` when their number is known beforehand. -/
  | sequence (sized : Bool) (items : List Value)
  /-- A table; `named` when it holds the named arguments of a call. -/
  | table (named : Bool) (entries : List (Value × Value))
  | function (f : Callable)
  deriving Repr, Inhabited

/-- The kinds of values, in the order in which values of different kinds are sorted. -/
inductive Kind where
  | undefined
  | none
  | bool
  | number
  | string
  | bytes
  | list
  | table
  | sequence
  | function
  deriving Repr, DecidableEq, Inhabited

namespace Kind

def rank : Kind → Nat
  | undefined => 0
  | none => 1
  | bool => 2
  | number => 3
  | string => 4
  | bytes => 5
  | list => 6
  | table => 7
  | sequence => 8
  | function => 9

end Kind

namespace Value

def text (s : String) : Value := .string false s

def kind : Value → Kind
  | undefined => .undefined
  | none => .none
  | bool _ => .bool
  | int _ => .number
  | float _ => .number
  | string _ _ => .string
  | bytes _ => .bytes
  | list _ => .list
  | sequence _ _ => .sequence
  | table _ _ => .table
  | function _ => .function

/-- The text of a string, or of bytes that spell one. -/
def text? : Value → Option String
  | string _ s => some s
  | bytes codes => Text.ofUtf8? codes
  | _ => .none

def emitter? : Value → Option Nat
  | function (.emitter sink) => some sink
  | _ => .none

def items : Value → List Value
  | list items => items
  | sequence _ items => items
  | _ => []

def entries : Value → List (Value × Value)
  | table _ entries => entries
  | _ => []

def isUndefined : Value → Bool
  | undefined => true
  | _ => false

def isAbsent : Value → Bool
  | undefined => true
  | none => true
  | _ => false

/-- Whether a condition of an expression holds for a value. -/
def isTrue : Value → Bool
  | undefined => false
  | none => false
  | bool b => b
  | int n => n ≠ 0
  | float x => !(x == 0.0)
  | string _ s => !s.isEmpty
  | bytes codes => !codes.isEmpty
  | list items => !items.isEmpty
  | sequence sized items => !(sized && items.isEmpty)
  | table _ entries => !entries.isEmpty
  | function _ => true

def length? : Value → Option Nat
  | string _ s => some s.length
  | bytes codes => some codes.length
  | list items => some items.length
  | sequence sized items => if sized then some items.length else .none
  | table _ entries => some entries.length
  | _ => .none

/-- What a walk through a value meets: the characters of a string, the items of a list or a
sequence, the keys of a table, and nothing in an absent value. -/
def walk? : Value → Option (List Value)
  | undefined => some []
  | none => some []
  | string _ s => some (s.toList.map (fun c => text (String.singleton c)))
  | list items => some items
  | sequence _ items => some items
  | table _ entries => some (entries.map Prod.fst)
  | _ => .none

mutual

def ofData : Data → Value
  | .null => .none
  | .bool b => .bool b
  | .int n => .int n
  | .float x => .float x
  | .string s => .string false s
  | .list items => .list (ofItems items)
  | .table entries => .table false (ofEntries entries)

def ofItems : List Data → List Value
  | [] => []
  | first :: rest => ofData first :: ofItems rest

def ofEntries : List (String × Data) → List (Value × Value)
  | [] => []
  | (key, value) :: rest => (.string false key, ofData value) :: ofEntries rest

end

end Value

end BlockTemplates.Expr
