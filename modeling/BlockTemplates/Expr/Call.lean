import BlockTemplates.Compose.Emit
import BlockTemplates.Expr.Environment
import BlockTemplates.Truth

/-! Calls. A function may call functions that it is given, so what a call can lead to is bounded by
the functions among its arguments: their weight falls with every further call. What callbacks of
`execute` emit is handed up to the `execute` that it is meant for; a failure drops it. -/

namespace BlockTemplates.Expr

namespace Value

/-- Whether `renderIf` takes a value as true. Lists and tables are, also empty ones. -/
def isTruthy : Value → Bool
  | undefined => false
  | none => false
  | list _ => true
  | table _ _ => true
  | value => value.isTrue

end Value

instance : Truthy Value := ⟨Value.isTruthy⟩

abbrev Emission := Nat × String

abbrev Outcome (α : Type) := Answer (α × List Emission)

def emission (sink : Nat) (value : Value) : List Emission := (value.pageText?.map (sink, ·)).toList

def quietly {α : Type} (answer : Answer α) : Outcome α := answer.map (·, [])

def maxRange : Nat := 100000

def rangeLength (start stop step : Int) : Nat :=
  if 0 < step then ((stop - start + step - 1) / step).toNat
  else ((start - stop - step - 1) / -step).toNat

def rangeOf (start stop step : Int) : Answer Value :=
  if step = 0 ∨ maxRange < rangeLength start stop step then invalid
  else .ok (.sequence true ((List.range (rangeLength start stop step)).map (fun (i : Nat) => .int (start + i * step))))

open Arguments in
def Builtin.take : Builtin → Arguments (Answer Value)
  | range => do
    let first ← whole
    let second ← optional whole
    let step ← optional whole
    match second with
    | some stop => return rangeOf first stop (step.getD 1)
    | none => return rangeOf 0 first (step.getD 1)
  | dict => do
    let options ← named
    let start ← optional value
    match start with
    | none => return .ok (.table false (Value.insertEntries [] options))
    | some (.table _ entries) => return .ok (.table false (Value.insertEntries entries options))
    | some _ => return invalid
  | «namespace» => do
    let start ← optional value
    match start with
    | none => return .ok (.table false [])
    | some (.table _ entries) => return .ok (.table false entries)
    | some _ => return invalid
  | debug => do
    match ← rest with
    | [only] => return .ok (.text (only.spreadText 0))
    | values => return .ok (.text ((Value.list values).spreadText 0))
  | renderIf => do
    let condition ← value
    let yes ← value
    let no ← optional value
    return .ok (BlockTemplates.renderIf condition yes (no.getD (.text "")))
  | _ => return invalid

/-- The text that `execute` number `sink` yields when its callback emitted `emissions` and then
answered `value`. -/
def executed (sink : Nat) (emissions : List Emission) (value : Value) : String :=
  BlockTemplates.execute ((emissions.filter (·.1 = sink)).map Prod.snd) value.text?

mutual

/-- What a call yields. `sink` is the number that the next `execute` gets. -/
def perform (environment : Environment) (sink : Nat) (target : Value) (arguments : List Value) :
    Outcome Value :=
  match target with
  | .function (.builtin .forEach) =>
    match arguments with
    | [subject, callback] =>
      match found : subject.walk? with
      | none => invalid
      | some items =>
        have := Value.weightAll_walk found
        (callEach environment sink callback items).map (fun (texts, emissions) =>
          (.text (String.join texts), emissions))
    | _ :: _ :: _ => .error .tooManyArguments
    | _ => .error .missingArgument
  | .function (.builtin .execute) =>
    match arguments with
    | [callback] =>
      (perform environment (sink + 1) callback [.function (.emitter sink)]).map (fun (value, emissions) =>
        (.text (executed sink emissions value), emissions.filter (·.1 ≠ sink)))
    | [] => .error .missingArgument
    | _ => .error .tooManyArguments
  | .function (.builtin f) =>
    quietly ((Arguments.answer (do
      let answer ← f.take
      Arguments.done
      return answer) arguments).bind id)
  | .function (.host s) =>
    match environment.functions.get? s with
    | none => invalid
    | some function => follow environment sink arguments (function arguments)
  | .function (.emitter number) =>
    match arguments with
    | [value] => .ok (.undefined, emission number value)
    | [] => .error .missingArgument
    | _ => .error .tooManyArguments
  | _ => invalid
termination_by (target.weight + Value.weightAll arguments, 0)
decreasing_by
  all_goals simp only [Value.weight, Callable.weight, Value.weightAll]
  all_goals first
    | (apply Prod.Lex.left; omega)

def callEach (environment : Environment) (sink : Nat) (callback : Value) (items : List Value) :
    Outcome (List String) :=
  match items with
  | [] => .ok ([], [])
  | first :: rest =>
    match perform environment sink callback [first] with
    | .error error => .error error
    | .ok (value, emissions) =>
      (callEach environment sink callback rest).map (fun (texts, more) =>
        (value.pageText?.getD "" :: texts, emissions ++ more))
termination_by (callback.weight + Value.weightAll items, items.length + 1)
decreasing_by
  · simp only [Value.weightAll, Prod.lex_def]
    omega
  · simp only [Value.weightAll, Prod.lex_def, List.length_cons]
    omega

/-- What a call of a host function yields that does as `reply` says. -/
def follow (environment : Environment) (sink : Nat) (arguments : List Value) (reply : Reply arguments) :
    Outcome Value :=
  match reply with
  | .fail error => .error error
  | .answer value => .ok (value, [])
  | .invoke index value _light rest =>
    match found : arguments[index]? with
    | none => .error .missingArgument
    | some target =>
      match _emits : target.emitter? with
      | some number =>
        (follow environment sink arguments rest).map (fun (answer, more) =>
          (answer, emission number value ++ more))
      | none =>
        have := Value.weight_le_weightAll (List.mem_of_getElem? found)
        match perform environment sink target [value] with
        | .error error => .error error
        | .ok (_, emissions) =>
          (follow environment sink arguments rest).map (fun (answer, more) => (answer, emissions ++ more))
termination_by (Value.weightAll arguments, sizeOf reply)
decreasing_by
  · apply Prod.Lex.right
    simp only [Reply.invoke.sizeOf_spec]
    omega
  · have plain : value.weight = 0 := by
      rcases _light with plain | ⟨sink, same⟩
      · exact plain
      · cases found.symm.trans same
        cases _emits
    simp only [Value.weightAll, plain, Prod.lex_def, Reply.invoke.sizeOf_spec]
    omega
  · apply Prod.Lex.right
    simp only [Reply.invoke.sizeOf_spec]
    omega

end

end BlockTemplates.Expr
