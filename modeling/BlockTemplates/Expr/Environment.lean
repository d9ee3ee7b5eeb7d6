import BlockTemplates.Expr.Argument
import BlockTemplates.Expr.Weight

/-! What expressions can use beside the data: values and functions that the host provides. A host
function is known by its reply to arguments. -/

namespace BlockTemplates.Expr

inductive Reply (arguments : List Value) where
  | fail (error : Error)
  | answer (value : Value)
  /-- It calls its argument at `index` with a value, and goes on. The value holds no functions, unless
  the argument is one that emits. -/
  | invoke (index : Nat) (value : Value)
      (light : value.weight = 0 ∨ ∃ sink, arguments[index]? = some (.function (.emitter sink)))
      (rest : Reply arguments)

abbrev HostFunction := (arguments : List Value) → Reply arguments

def HostFunction.of (take : {given : List Value} → Arguments (Reply given)) : HostFunction := fun arguments =>
  let reply := Arguments.answer (do
    let reply ← take
    Arguments.done
    return reply) arguments
  match reply with
  | .ok reply => reply
  | .error error => .fail error

structure Environment where
  values : Dict Value
  functions : Dict HostFunction

namespace Environment

def plain : Environment := ⟨.empty, .empty⟩

instance : Inhabited Environment := ⟨plain⟩

def builtin? (name : String) : Option Builtin := Builtin.all.find? (·.name == name)

def global (environment : Environment) (name : String) : Value :=
  match environment.values.get? name with
  | some value => value
  | none =>
    if environment.functions.contains name then .function (.host name)
    else ((builtin? name).map (fun f => .function (.builtin f))).getD .undefined

/-- What a name stands for: a key of the data, or else something that the host or the language
provides. -/
def resolve (environment : Environment) (data : Value) (name : String) : Value :=
  (data.field? name).getD (environment.global name)

end Environment

end BlockTemplates.Expr
