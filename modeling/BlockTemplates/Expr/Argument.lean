import BlockTemplates.Expr.Access

/-! Taking arguments. Filters, tests and functions take their arguments one after the other from the
front of a list; named arguments come as one table at its end. An argument that is missing, left
over or of the wrong kind is an error. -/

namespace BlockTemplates.Expr

abbrev Arguments := StateT (List Value) Answer

abbrev Named := List (Value × Value)

namespace Arguments

def value : Arguments Value := fun arguments =>
  match arguments with
  | [] => .error .missingArgument
  | first :: rest => .ok (first, rest)

def isNamed : Value → Bool
  | .table named _ => named
  | _ => false

def text : Arguments String := do
  let argument ← value
  if isNamed argument then throw .invalidOperation else return argument.display

def string : Arguments String := do
  match (← value).text? with
  | some s => return s
  | none => throw .invalidOperation

def wholeOf (argument : Value) : Answer Int := orInvalid argument.asWhole?

def boolOf : Value → Answer Bool
  | .bool b => .ok b
  | _ => invalid

def whole : Arguments Int := do wholeOf (← value)

def count : Arguments Nat := do orInvalid (← value).asCount?

def bool : Arguments Bool := do boolOf (← value)

/-- The next argument as `take` takes it, unless it is missing or absent. -/
def optional {α : Type} (take : Arguments α) : Arguments (Option α) := fun arguments =>
  match arguments with
  | [] => .ok (none, [])
  | first :: rest =>
    if first.isAbsent then .ok (none, rest)
    else (take arguments).map (fun (a, rest) => (some a, rest))

def named : Arguments Named := fun arguments =>
  match arguments.getLast? with
  | some (.table true entries) => .ok (entries, arguments.dropLast)
  | _ => .ok ([], arguments)

def rest : Arguments (List Value) := fun arguments => .ok (arguments, [])

def done : Arguments Unit := fun arguments =>
  match arguments with
  | [] => .ok ((), [])
  | _ :: _ => .error .tooManyArguments

def answer {α : Type} (take : Arguments α) (arguments : List Value) : Answer α :=
  (take arguments).map Prod.fst

end Arguments

namespace Named

def get? (named : Named) (name : String) : Option Value := Value.lookup? (.text name) named

def flag (named : Named) (name : String) : Answer Bool :=
  match named.get? name with
  | none => .ok false
  | some value => if value.isAbsent then .ok false else Arguments.boolOf value

def string? (named : Named) (name : String) : Answer (Option String) :=
  match named.get? name with
  | none => .ok none
  | some value => if value.isAbsent then .ok none else (orInvalid value.text?).map some

def only (named : Named) (names : List String) : Answer Unit :=
  if named.all (fun entry => names.any (fun name => entry.1.text? == some name)) then .ok ()
  else .error .tooManyArguments

end Named

def walk (value : Value) : Answer (List Value) := orInvalid value.walk?

end BlockTemplates.Expr
