import BlockTemplates.Expr.Eval
import BlockTemplates.Proofs.Result

/-! Calls of `forEach` and `execute`. `forEach` calls a function with one item after the other and
`execute` collects what its callback emits, both by the same way from values to texts. Main statements:
`eval_call`, `answerOf_forEach` and `answerOf_execute`. -/

namespace BlockTemplates.Expr

variable {environment : Environment} {data : Value}

section Calls

def isReserved : Expr → Bool
  | .name s => s = "super" ∨ s = "loop"
  | .field (.name s) _ => s = "self"
  | _ => false

theorem callName_eq {s : String} {target : Value} (free : isReserved (.name s) = false)
    (resolved : environment.resolve data s = target) (defined : target.isUndefined = false)
    (arguments : List Value) : callName environment data s arguments = answerOf environment target arguments := by
  unfold callName
  simp only [if_neg (of_decide_eq_false free), resolved, defined, Bool.false_eq_true, if_false]

theorem callField_eq {container target : Value} {s : String} (found : container.field? s = some target)
    (arguments : List Value) :
    callField environment container s arguments = answerOf environment target arguments := by
  unfold callField
  rw [found]

theorem exists_of_eval_field {container : Expr} {s : String} {callable : Callable}
    (isFunction : eval environment data (.field container s) = .ok (.function callable)) :
    ∃ value, eval environment data container = .ok value ∧ value.field? s = some (.function callable) := by
  rw [eval] at isFunction
  cases evaluated : eval environment data container with
  | error error =>
    rw [evaluated] at isFunction
    cases isFunction
  | ok value =>
    rw [evaluated] at isFunction
    refine ⟨value, rfl, ?_⟩
    have same := Except.ok.inj isFunction
    cases found : value.field? s with
    | none =>
      rw [found] at same
      cases same
    | some target =>
      rw [found] at same
      exact congrArg some same

theorem eval_call {callee : Expr} {callable : Callable} (free : isReserved callee = false)
    (isFunction : eval environment data callee = .ok (.function callable))
    (arguments : List (Passing × Expr)) :
    eval environment data (.call callee arguments) = (do
      answerOf environment (.function callable) (← assemble (← evalArguments environment data arguments))) := by
  cases callee with
  | name s =>
    have resolved : environment.resolve data s = .function callable := by
      rw [eval] at isFunction
      exact Except.ok.inj isFunction
    rw [eval]
    simp only [callName_eq free resolved rfl]
  | field container s =>
    have other : container = .name "self" → False := by
      rintro rfl
      simp [isReserved] at free
    obtain ⟨value, evaluated, found⟩ := exists_of_eval_field isFunction
    rw [eval]
    · simp only [evaluated, bind, Except.bind, callField_eq found]
    · exact other
  | _ =>
    rw [eval, isFunction]
    · rfl
    all_goals nofun

variable {callee operand operand' : Expr} {callable : Callable} {value value' : Value}

theorem eval_call_one (free : isReserved callee = false)
    (isFunction : eval environment data callee = .ok (.function callable))
    (evaluated : eval environment data operand = .ok value) :
    eval environment data (.call callee [(.positional, operand)]) =
      answerOf environment (.function callable) [value] := by
  rw [eval_call free isFunction, evalArguments, evalArguments, evaluated]
  rfl

theorem eval_call_two (free : isReserved callee = false)
    (isFunction : eval environment data callee = .ok (.function callable))
    (evaluated : eval environment data operand = .ok value)
    (evaluated' : eval environment data operand' = .ok value') :
    eval environment data (.call callee [(.positional, operand), (.positional, operand')]) =
      answerOf environment (.function callable) [value, value'] := by
  rw [eval_call free isFunction, evalArguments, evalArguments, evalArguments, evaluated, evaluated']
  rfl

theorem eval_item {subject : Expr} {items : List Value}
    (isList : eval environment data subject = .ok (.list items)) {i : Nat} (bounded : i < items.length) :
    eval environment data (.item subject (.constant (.int i))) = .ok items[i] := by
  have positioned : position? items.length i = some i := by
    unfold position?
    rw [if_pos (Int.natCast_nonneg i), Int.natAbs_natCast]
  have found : (Value.list items).item? (.int i) = some items[i] := by
    change (position? items.length i).bind (items[·]?) = _
    rw [positioned, Option.bind_some, List.getElem?_eq_getElem bounded]
  rw [eval, isList, eval]
  simp only [bind, Except.bind, found]
  rfl

end Calls

section ForEach

/-- The texts of answers for some items, unless one of them is an error. -/
def textsOf {α : Type} (answer : α → Answer Value) (items : List α) : Answer (List String) :=
  items.mapM fun item => (answer item).map fun value => value.pageText?.getD ""

/-- The texts are those of the answers to one call after the other, and the first call that fails stops the
rest. -/
theorem callEach_eq (environment : Environment) (sink : Nat) (callback : Value) (items : List Value) :
    (callEach environment sink callback items).map Prod.fst =
      textsOf (fun item => (perform environment sink callback [item]).map Prod.fst) items := by
  unfold textsOf at *
  induction items with
  | nil =>
    rw [callEach]
    rfl
  | cons item items ih =>
    rw [callEach, List.mapM_cons, ← ih]
    dsimp only
    cases perform environment sink callback [item] with
    | error error => rfl
    | ok answer => cases callEach environment sink callback items <;> rfl

theorem answerOf_forEach (callable : Callable) (items : List Value) :
    answerOf environment (.function (.builtin .forEach)) [.list items, .function callable] =
      (textsOf (fun item => answerOf environment (.function callable) [item]) items).map fun texts =>
        .text (String.join texts) := by
  unfold answerOf
  rw [← callEach_eq, perform]
  split
  · next unwalked => cases unwalked
  · next walked =>
    obtain rfl := Option.some.inj walked
    cases callEach environment 0 (.function callable) items <;> rfl

end ForEach

section Execute

namespace Reply

variable {given : List Value}

def emitted : Reply given → List Value
  | .fail _ => []
  | .answer _ => []
  | .invoke 0 value _ rest => value :: emitted rest
  | .invoke (_ + 1) _ _ _ => []

def ending : Reply given → Answer Value
  | .fail error => .error error
  | .answer value => .ok value
  | .invoke 0 _ _ rest => ending rest
  | .invoke (_ + 1) _ _ _ => .error .missingArgument

end Reply

/-- Everything that a host function calls its argument with is emitted, in order, until it ends. -/
theorem follow_eq (sink number : Nat) (reply : Reply [.function (.emitter number)]) :
    follow environment sink [.function (.emitter number)] reply =
      reply.ending.map fun value => (value, reply.emitted.flatMap (emission number)) := by
  induction reply with
  | fail error =>
    rw [follow]
    rfl
  | answer value =>
    rw [follow]
    rfl
  | invoke index value light rest ih =>
    cases index with
    | zero =>
      rw [follow]
      change (follow environment sink _ rest).map _ = rest.ending.map fun answer =>
        (answer, emission number value ++ rest.emitted.flatMap (emission number))
      rw [ih]
      cases rest.ending <;> rfl
    | succ index =>
      rw [follow]
      rfl

theorem perform_quiet {f : Builtin} (loops : f ≠ .forEach) (collects : f ≠ .execute) (sink : Nat)
    (arguments : List Value) :
    perform environment sink (.function (.builtin f)) arguments = quietly ((Arguments.answer (do
      let answer ← f.take
      Arguments.done
      return answer) arguments).bind id) := by
  rw [perform]
  · exact loops
  · exact collects

/-- What a callback of `execute` does with the function that it is given: the values that it calls it with,
and how it ends. Functions of the language call no other, but for `execute`, which hands on a function of
its own. -/
inductive Course (environment : Environment) : Callable → List Value → Answer Value → Prop
  | host {s : String} {function : HostFunction} (found : environment.functions.get? s = some function) :
      Course environment (.host s) (function [.function (.emitter 0)]).emitted
        (function [.function (.emitter 0)]).ending
  | builtin {f : Builtin} (other : f ≠ .execute) :
      Course environment (.builtin f) []
        (answerOf environment (.function (.builtin f)) [.function (.emitter 0)])
  | execute : Course environment (.builtin .execute) [.function (.emitter 1)] (.ok (.text ""))

variable {callable : Callable} {values : List Value} {ending : Answer Value}

theorem perform_of_course (course : Course environment callable values ending) :
    perform environment 1 (.function callable) [.function (.emitter 0)] =
      ending.map fun value => (value, values.flatMap (emission 0)) := by
  cases course with
  | host found =>
    rw [perform, found]
    exact follow_eq 1 0 _
  | @builtin f collects =>
    unfold answerOf
    by_cases loops : f = .forEach
    · subst loops
      rw [perform, perform]
      · rfl
      all_goals simp
    · rw [perform_quiet loops collects, perform_quiet loops collects]
      cases (Arguments.answer _ _ : Answer (Answer Value)).bind id <;> rfl
  | execute =>
    rw [perform, perform]
    rfl

theorem filter_emission (sink : Nat) (values : List Value) :
    (values.flatMap (emission sink)).filter (·.1 = sink) = values.flatMap (emission sink) := by
  rw [List.filter_eq_self]
  intro emitted inside
  obtain ⟨value, -, inside⟩ := List.mem_flatMap.mp inside
  unfold emission at inside
  obtain ⟨text, -, rfl⟩ := Option.map_eq_some_iff.mp (Option.mem_toList.mp inside)
  exact decide_eq_true rfl

theorem join_emission (sink : Nat) (values : List Value) :
    String.join ((values.flatMap (emission sink)).map Prod.snd) =
      String.join (values.map fun value => value.pageText?.getD "") := by
  induction values with
  | nil => rfl
  | cons value values ih =>
    have own : String.join ((emission sink value).map Prod.snd) = value.pageText?.getD "" := by
      unfold emission
      cases value.pageText? <;> simp
    rw [List.flatMap_cons, List.map_append, String.join_append, ih, own, List.map_cons, String.join_cons]

/-- `execute` gives the texts of all values that its callback emits, followed by the text that the callback
returns. A callback that fails leaves nothing of them. -/
theorem answerOf_execute (course : Course environment callable values ending) :
    answerOf environment (.function (.builtin .execute)) [.function callable] = ending.map fun value =>
      .text (String.join (values.map fun value => value.pageText?.getD "") ++ value.text?.getD "") := by
  unfold answerOf
  rw [perform, perform_of_course course]
  cases ending with
  | error error => rfl
  | ok value =>
    have joined : executed 0 (values.flatMap (emission 0)) value =
        String.join (values.map fun value => value.pageText?.getD "") ++ value.text?.getD "" := by
      unfold executed BlockTemplates.execute
      rw [filter_emission, String.join_append, join_emission]
      cases value.text? <;> simp
    exact congrArg (fun text => Except.ok (Value.text text)) joined

end Execute

end BlockTemplates.Expr
