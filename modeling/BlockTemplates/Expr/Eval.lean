import BlockTemplates.Expr.Call
import BlockTemplates.Expr.Filter
import BlockTemplates.Expr.Grammar

/-! Evaluation of expressions over data. Names, fields and items that are not there are undefined,
and undefined has no parts, so that they can be chained. -/

namespace BlockTemplates.Expr

def Operator.apply : Operator → Value → Value → Answer Value
  | add => Value.add
  | sub => Value.sub
  | concat => fun a b => .ok (a.concat b)
  | mul => Value.mul
  | div => Value.div
  | floorDiv => Value.floorDiv
  | rem => Value.rem
  | pow => Value.pow

def positionalValues : Passing × Value → Answer (List Value)
  | (.positional, value) => .ok [value]
  | (.spread, value) => walk value
  | _ => .ok []

def namedEntries : Passing × Value → Answer (List (Value × Value))
  | (.named s, value) => .ok [(.text s, value)]
  | (.spreadNamed, .table _ entries) => .ok entries
  | (.spreadNamed, _) => invalid
  | _ => .ok []

/-- The arguments of a call, of which the named ones come as one table at the end. -/
def assemble (arguments : List (Passing × Value)) : Answer (List Value) := do
  let positional ← arguments.mapM positionalValues
  let options ← arguments.mapM namedEntries
  if arguments.any (·.1.isNamed) then
    return positional.flatten ++ [.table true (Value.insertEntries [] options.flatten)]
  else return positional.flatten

/-- The answer of a call. What it emits has no `execute` to go to. -/
def answerOf (environment : Environment) (target : Value) (arguments : List Value) : Answer Value :=
  (perform environment 0 target arguments).map Prod.fst

/-- The answer of a call to what a name stands for. Two names are kept for other uses. -/
def callName (environment : Environment) (data : Value) (called : String) (arguments : List Value) :
    Answer Value :=
  if called = "super" ∨ called = "loop" then invalid
  else
    let target := environment.resolve data called
    if target.isUndefined then .error .unknownFunction else answerOf environment target arguments

def callField (environment : Environment) (container : Value) (called : String)
    (arguments : List Value) : Answer Value :=
  match container.field? called with
  | some target => answerOf environment target arguments
  | none => .error .unknownMethod

mutual

def eval (environment : Environment) (data : Value) : Expr → Answer Value
  | .constant value => .ok value
  | .name s => .ok (environment.resolve data s)
  | .list items => (evalItems environment data items).map .list
  | .table entries =>
    (evalEntries environment data entries).map (fun entries => .table false (Value.insertEntries [] entries))
  | .negate operand => do (← eval environment data operand).neg
  | .not operand => do return .bool !(← eval environment data operand).isTrue
  | .binary operator left right => do
    let a ← eval environment data left
    let b ← eval environment data right
    operator.apply a b
  | .both left right => do
    let a ← eval environment data left
    if a.isTrue then eval environment data right else return a
  | .either left right => do
    let a ← eval environment data left
    if a.isTrue then return a else eval environment data right
  | .compared first rest => do
    let a ← eval environment data first
    return .bool (← evalComparisons environment data a rest)
  | .conditional condition yes no => do
    if (← eval environment data condition).isTrue then eval environment data yes
    else eval environment data no
  | .field container s => do return ((← eval environment data container).field? s).getD .undefined
  | .item container key => do
    let container ← eval environment data container
    let key ← eval environment data key
    return (container.item? key).getD .undefined
  | .slice container start stop step => do
    let container ← eval environment data container
    let start ← eval environment data start
    let stop ← eval environment data stop
    let step ← eval environment data step
    container.slice start stop step
  | .call (.name s) arguments => do
    callName environment data s (← assemble (← evalArguments environment data arguments))
  | .call (.field (.name "self") _) _ => .error .unknownBlock
  | .call (.field container s) arguments => do
    let container ← eval environment data container
    callField environment container s (← assemble (← evalArguments environment data arguments))
  | .call target arguments => do
    let target ← eval environment data target
    answerOf environment target (← assemble (← evalArguments environment data arguments))
  | .filter s operand arguments => do
    let value ← eval environment data operand
    applyFilter s (value :: (← assemble (← evalArguments environment data arguments)))
  | .test s operand arguments => do
    let value ← eval environment data operand
    return .bool (← passes s (value :: (← assemble (← evalArguments environment data arguments))))

def evalItems (environment : Environment) (data : Value) : List Expr → Answer (List Value)
  | [] => .ok []
  | e :: rest => do
    let value ← eval environment data e
    return value :: (← evalItems environment data rest)

def evalEntries (environment : Environment) (data : Value) :
    List (Expr × Expr) → Answer (List (Value × Value))
  | [] => .ok []
  | (k, e) :: rest => do
    let key ← eval environment data k
    let value ← eval environment data e
    return (key, value) :: (← evalEntries environment data rest)

def evalArguments (environment : Environment) (data : Value) :
    List (Passing × Expr) → Answer (List (Passing × Value))
  | [] => .ok []
  | (passing, e) :: rest => do
    let value ← eval environment data e
    return (passing, value) :: (← evalArguments environment data rest)

def evalComparisons (environment : Environment) (data : Value) (a : Value) :
    List (Comparison × Expr) → Answer Bool
  | [] => .ok true
  | (comparison, e) :: rest => do
    let b ← eval environment data e
    if ← Value.compares comparison a b then evalComparisons environment data b rest else return false

end

def evaluate (environment : Environment) (data : Value) (source : String) : Answer Value :=
  (compile source).bind (eval environment data)

end BlockTemplates.Expr
