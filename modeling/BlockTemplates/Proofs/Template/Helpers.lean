import BlockTemplates.Expr.Samples
import BlockTemplates.Proofs.Expr.Calling
import BlockTemplates.Proofs.Expr.PageText
import BlockTemplates.Proofs.Template.Soundness

/-! Holes, `forEach` and `execute` make the same texts of values. What `forEach` gives for a list is what
the holes give that call its function with one item each, and what `execute` gives is what the emitted
values give as holes, with the text behind it that the callback returns. Main statement: `helpers_agree`. -/

namespace BlockTemplates

namespace Template

variable {environment : Expr.Environment} {name : String} {data : Expr.Value}

/-- `whole` calls `forEach` with a list and a function, and each of the holes calls the function with an
item of the list. -/
inductive Loops (environment : Expr.Environment) (data : Expr.Value) (whole : String) (holes : List String) : Prop
  | intro {subject callee : Expr} {callable : Expr.Callable} {items : List Expr.Value}
      (known : environment.resolve data "forEach" = .function (.builtin .forEach))
      (isList : Expr.eval environment data subject = .ok (.list items))
      (free : Expr.isReserved callee = false)
      (isFunction : Expr.eval environment data callee = .ok (.function callable))
      (spelled : Expr.compile whole =
        .ok (.call (.name "forEach") [(.positional, subject), (.positional, callee)]))
      (count : holes.length = items.length)
      (calls : ∀ i (inside : i < holes.length), Expr.compile holes[i] =
        .ok (.call callee [(.positional, .item subject (.constant (.int i)))]))

/-- `whole` calls `execute` with a callback that calls what it is given with some values and then ends. -/
inductive Executes (environment : Expr.Environment) (data : Expr.Value) (whole : String)
    (values : List Expr.Value) (ending : Expr.Answer Expr.Value) : Prop
  | intro {callee : Expr} {callable : Expr.Callable}
      (known : environment.resolve data "execute" = .function (.builtin .execute))
      (isFunction : Expr.eval environment data callee = .ok (.function callable))
      (spelled : Expr.compile whole = .ok (.call (.name "execute") [(.positional, callee)]))
      (course : Expr.Course environment callable values ending)

theorem expressionText_eq (expression : String) : expressionText environment name data expression =
    ((Expr.evaluate environment data expression).map Expr.Value.pageText?).mapError (.expression name) := by
  unfold expressionText
  cases Expr.evaluate environment data expression <;> rfl

theorem evaluate_eq {expression : String} {read : Expr} (spelled : Expr.compile expression = .ok read) :
    Expr.evaluate environment data expression = Expr.eval environment data read := by
  unfold Expr.evaluate
  rw [spelled]
  rfl

theorem mapM_expressionText_eq {α : Type} {answer : α → Expr.Answer Expr.Value} {holes : List String}
    {items : List α}
    (each : List.Forall₂ (fun hole item => Expr.evaluate environment data hole = answer item) holes items) :
    (holes.mapM (expressionText environment name data)).map (·.map (·.getD "")) =
      (Expr.textsOf answer items).mapError (.expression name) := by
  unfold Expr.textsOf
  induction each with
  | nil => rfl
  | @cons hole item holes items first _ ih =>
    rw [List.mapM_cons, List.mapM_cons, expressionText_eq, first]
    cases answer item with
    | error error => rfl
    | ok value =>
      let joined (texts : List String) := value.pageText?.getD "" :: texts
      calc (do
            let texts ← holes.mapM (expressionText environment name data)
            return value.pageText? :: texts : Result (List (Option String))).map (·.map (·.getD ""))
          = ((holes.mapM (expressionText environment name data)).map (·.map (·.getD ""))).map joined := by
            cases holes.mapM (expressionText environment name data) <;> rfl
        _ = ((Expr.textsOf answer items).mapError (.expression name)).map joined := by rw [Expr.textsOf, ih]
        _ = ((Expr.textsOf answer items).map joined).mapError (.expression name) := by
            cases Expr.textsOf answer items <;> rfl

theorem Loops.expressionText_whole {whole : String} {holes : List String}
    (loops : Loops environment data whole holes) (name : String) :
    expressionText environment name data whole =
      (holes.mapM (expressionText environment name data)).map fun texts =>
        some (String.join (texts.map (·.getD ""))) := by
  obtain @⟨subject, callee, callable, items, known, isList, free, isFunction, spelled, count, calls⟩ := loops
  have each : List.Forall₂ (fun hole item => Expr.evaluate environment data hole =
      Expr.answerOf environment (.function callable) [item]) holes items := by
    refine List.forall₂_iff_get.mpr ⟨count, fun i inside inside' => ?_⟩
    rw [List.get_eq_getElem, evaluate_eq (calls i inside)]
    exact Expr.eval_call_one free isFunction (Expr.eval_item isList inside')
  have isForEach : Expr.eval environment data (.name "forEach") = .ok (.function (.builtin .forEach)) := by
    rw [Expr.eval, known]
  have called := Expr.eval_call_two (by decide) isForEach isList isFunction
  calc expressionText environment name data whole
      = ((Expr.textsOf _ items).mapError (.expression name)).map fun texts => some (String.join texts) := by
        rw [expressionText_eq, evaluate_eq spelled, called, Expr.answerOf_forEach]
        cases Expr.textsOf _ items <;> rfl
    _ = ((holes.mapM (expressionText environment name data)).map (·.map (·.getD ""))).map fun texts =>
          some (String.join texts) := by
        rw [mapM_expressionText_eq each]
    _ = _ := by
        cases holes.mapM (expressionText environment name data) <;> rfl

theorem Executes.expressionText_whole {whole : String} {values : List Expr.Value}
    {ending : Expr.Answer Expr.Value} (executes : Executes environment data whole values ending) (name : String) :
    expressionText environment name data whole = (ending.mapError (.expression name)).map fun result =>
      some (String.join (values.map fun value => value.pageText?.getD "") ++ result.text?.getD "") := by
  obtain ⟨known, isFunction, spelled, course⟩ := executes
  have isExecute : Expr.eval environment data (.name "execute") = .ok (.function (.builtin .execute)) := by
    rw [Expr.eval, known]
  have called := Expr.eval_call_one (by decide) isExecute isFunction
  rw [expressionText_eq, evaluate_eq spelled, called, Expr.answerOf_execute course]
  cases ending <;> rfl

/-- Holes, `forEach` and `execute` make the same texts of values. -/
theorem helpers_agree (environment : Expr.Environment) (name : String) (data : Expr.Value) :
    (∀ value : Expr.Value, value.pageText? =
      if value.isAbsent then none
      else some (if value.kind = .number then wholeText value.display else value.display)) ∧
    (∀ whole holes, Loops environment data whole holes →
      (expressionText environment name data whole =
        (holes.mapM (expressionText environment name data)).map fun texts =>
          some (String.join (texts.map (·.getD "")))) ∧
      ∀ before hole after failure, holes = before ++ hole :: after →
        (∀ earlier ∈ before, ∃ text, expressionText environment name data earlier = .ok text) →
          expressionText environment name data hole = .error failure →
            expressionText environment name data whole = .error failure) ∧
    (∀ whole values ending, Executes environment data whole values ending →
      (∀ result, ending = .ok result → expressionText environment name data whole =
        .ok (some (String.join (values.map fun value => value.pageText?.getD "") ++ result.text?.getD ""))) ∧
      (∀ error, ending = .error error →
        expressionText environment name data whole = .error (.expression name error)) ∧
      ∀ holes, List.Forall₂ (Evaluates environment data) holes values →
        holes.mapM (expressionText environment name data) = .ok (values.map Expr.Value.pageText?)) ∧
    (∀ safe s, (Expr.Value.string safe s).text? = some s) ∧
    ∀ value : Expr.Value, value.kind ≠ .string → value.kind ≠ .bytes → value.text? = none := by
  refine ⟨Expr.Value.pageText?_eq, fun whole holes loops => ?_, fun whole values ending executes => ?_,
    fun _ _ => rfl, ?_⟩
  · have texts := loops.expressionText_whole name
    refine ⟨texts, fun before hole after failure split earlier fails => ?_⟩
    rw [texts, Result.mapM_eq_error_iff.mpr ⟨before, hole, after, split, earlier, fails⟩]
    rfl
  · have text := executes.expressionText_whole name
    refine ⟨?_, ?_, fun holes evaluated => mapM_expressionText_eq_ok_iff.mpr ⟨values, evaluated, rfl⟩⟩
    · rintro result rfl
      exact text
    · rintro error rfl
      exact text
  · intro value notString notBytes
    cases value with
    | string safe s => exact absurd rfl notString
    | bytes codes => exact absurd rfl notBytes
    | _ => rfl

section Items

def itemData : Expr.Value := .ofData (.ofEntries [("items", .list [.int 3, .null])])

def rangeCall (i : Nat) : Expr :=
  .call (.name "range") [(.positional, .item (.name "items") (.constant (.int i)))]

set_option maxRecDepth 3000 in
theorem compile_rangeCall :
    Expr.compile "range(items[0])" = .ok (rangeCall 0) ∧ Expr.compile "range(items[1])" = .ok (rangeCall 1) := by
  constructor
  · with_unfolding_all rfl
  · with_unfolding_all rfl

theorem eval_items :
    Expr.eval Expr.Samples.environment itemData (.name "items") = .ok (.list [.int 3, .none]) ∧
      Expr.eval Expr.Samples.environment itemData (.name "range") = .ok (.function (.builtin .range)) := by
  constructor
  · with_unfolding_all rfl
  · with_unfolding_all rfl

theorem loops_range :
    Loops Expr.Samples.environment itemData "forEach(items, range)" ["range(items[0])", "range(items[1])"] := by
  obtain ⟨isList, isFunction⟩ := eval_items
  refine .intro (by with_unfolding_all rfl) isList (by decide) isFunction (by with_unfolding_all rfl) rfl ?_
  intro i inside
  match i, inside with
  | 0, _ => exact compile_rangeCall.1
  | 1, _ => exact compile_rangeCall.2

theorem evaluate_rangeCall :
    Expr.evaluate Expr.Samples.environment itemData "range(items[0])" =
      .ok (.sequence true [.int 0, .int 1, .int 2]) ∧
    Expr.evaluate Expr.Samples.environment itemData "range(items[1])" = .error .invalidOperation := by
  obtain ⟨isList, isFunction⟩ := eval_items
  constructor
  · rw [evaluate_eq compile_rangeCall.1, rangeCall,
      Expr.eval_call_one (by decide) isFunction (Expr.eval_item isList (by decide))]
    unfold Expr.answerOf
    rw [Expr.perform_quiet (by decide) (by decide)]
    with_unfolding_all rfl
  · rw [evaluate_eq compile_rangeCall.2, rangeCall,
      Expr.eval_call_one (by decide) isFunction (Expr.eval_item isList (by decide))]
    unfold Expr.answerOf
    rw [Expr.perform_quiet (by decide) (by decide)]
    with_unfolding_all rfl

theorem executes_countdown : Executes Expr.Samples.environment itemData "execute(countdown)"
    [.int 3, .int 2, .int 1] (.ok (.text "liftoff")) := by
  have found : Expr.Samples.environment.functions.get? "countdown" =
      some (Expr.Samples.emitting [some (.int 3), some (.int 2), some (.int 1)] (.answer (.text "liftoff"))) := by
    with_unfolding_all rfl
  have isFunction : Expr.eval Expr.Samples.environment itemData (.name "countdown") =
      .ok (.function (.host "countdown")) := by
    with_unfolding_all rfl
  exact .intro (by with_unfolding_all rfl) isFunction (by with_unfolding_all rfl) (.host found)

theorem executes_emit_then_fail : Executes Expr.Samples.environment itemData "execute(emit_then_fail)"
    [.text "lost"] (.error .invalidOperation) := by
  have found : Expr.Samples.environment.functions.get? "emit_then_fail" =
      some (Expr.Samples.emitting [some (.string "lost")] (.fail .invalidOperation)) := by
    with_unfolding_all rfl
  have isFunction : Expr.eval Expr.Samples.environment itemData (.name "emit_then_fail") =
      .ok (.function (.host "emit_then_fail")) := by
    with_unfolding_all rfl
  exact .intro (by with_unfolding_all rfl) isFunction (by with_unfolding_all rfl) (.host found)

/-- The second item has no range, so `forEach` has no text. -/
theorem helpers_agree_items :
    expressionText Expr.Samples.environment "page" itemData "range(items[0])" = .ok (some "[0, 1, 2]") ∧
    expressionText Expr.Samples.environment "page" itemData "forEach(items, range)" =
      .error (.expression "page" .invalidOperation) ∧
    expressionText Expr.Samples.environment "page" itemData "execute(countdown)" = .ok (some "321liftoff") ∧
    expressionText Expr.Samples.environment "page" itemData "execute(emit_then_fail)" =
      .error (.expression "page" .invalidOperation) := by
  obtain ⟨-, loops, executes, -⟩ := helpers_agree Expr.Samples.environment "page" itemData
  have first : expressionText Expr.Samples.environment "page" itemData "range(items[0])" =
      .ok (some "[0, 1, 2]") := by
    rw [expressionText_eq, evaluate_rangeCall.1]
    decide +kernel
  have second : expressionText Expr.Samples.environment "page" itemData "range(items[1])" =
      .error (.expression "page" .invalidOperation) := by
    rw [expressionText_eq, evaluate_rangeCall.2]
    rfl
  refine ⟨first, ?_, ?_, (executes _ _ _ executes_emit_then_fail).2.1 _ rfl⟩
  · have earlier : ∀ hole ∈ ["range(items[0])"],
        ∃ text, expressionText Expr.Samples.environment "page" itemData hole = .ok text :=
      List.forall_mem_singleton.mpr ⟨_, first⟩
    exact (loops _ _ loops_range).2 ["range(items[0])"] _ [] _ rfl earlier second
  · exact ((executes _ _ _ executes_countdown).1 _ rfl).trans (by decide +kernel)

end Items

end Template

end BlockTemplates
