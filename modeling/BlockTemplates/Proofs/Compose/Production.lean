import BlockTemplates.Proofs.Result
import BlockTemplates.TemplateSet

/-! What a template produces. Its page has the literals with the values of the expressions between
them, so the evaluated segments are the values in order, whatever the literals are. Main statements:
`produce_eq` and `extendTarget?_produce`. -/

namespace BlockTemplates

namespace Segment

theorem isDynamic_of_isStatic {segment : Segment} (static : segment.isStatic = true) :
    segment.isDynamic = false := by
  have kind : segment.kind = .static := of_decide_eq_true static
  rw [isDynamic, kind]
  rfl

theorem directive?_of_isStatic {segment : Segment} (static : segment.isStatic = true) :
    segment.directive? = none := by
  have kind : segment.kind = .static := of_decide_eq_true static
  rw [directive?, kind]

end Segment

namespace SegmentSequence

def Part.value? : Part → Option (Option String)
  | .literal _ => none
  | .value text => some text

theorem filter_closeStatic (sequence : SegmentSequence) :
    (closeStatic sequence).filter Segment.isDynamic = sequence.filter Segment.isDynamic := by
  fun_induction closeStatic sequence with
  | case1 => rfl
  | case2 => rfl
  | case3 last _ =>
    change ([last] ++ [Segment.static ""]).filter Segment.isDynamic = _
    rw [List.filter_append]
    exact List.append_nil _
  | case4 first second rest ih => rw [List.filter_cons, List.filter_cons, ih]

theorem filter_appendLiteral (sequence : SegmentSequence) (text : String) :
    (appendLiteral sequence text).filter Segment.isDynamic = sequence.filter Segment.isDynamic := by
  fun_induction appendLiteral sequence text with
  | case1 => rfl
  | case2 last text static =>
    have hidden := Segment.isDynamic_of_isStatic static
    have same : (last.replace (last.value ++ text)).isDynamic = last.isDynamic := rfl
    rw [List.filter_cons, List.filter_cons, same, hidden]
    rfl
  | case3 last text _ =>
    change ([last] ++ [Segment.static text]).filter Segment.isDynamic = _
    rw [List.filter_append]
    exact List.append_nil _
  | case4 first second rest text ih => rw [List.filter_cons, List.filter_cons, ih]

theorem filter_append (sequence : SegmentSequence) (part : Part) :
    (append sequence part).filter Segment.isDynamic =
      sequence.filter Segment.isDynamic ++ (part.value?.map Segment.dynamic).toList := by
  cases part with
  | literal text =>
    rw [append, filter_appendLiteral]
    exact (List.append_nil _).symm
  | value value =>
    rw [append, appendValue, List.filter_append, filter_closeStatic]
    rfl

theorem filter_foldl (sequence : SegmentSequence) (parts : List Part) :
    (parts.foldl append sequence).filter Segment.isDynamic =
      sequence.filter Segment.isDynamic ++ (parts.filterMap Part.value?).map Segment.dynamic := by
  induction parts generalizing sequence with
  | nil => simp
  | cons part parts ih =>
    rw [List.foldl_cons, ih, filter_append, List.append_assoc, List.filterMap_cons]
    cases part.value? <;> rfl

theorem filter_build (parts : List Part) :
    (build parts).filter Segment.isDynamic = (parts.filterMap Part.value?).map Segment.dynamic := by
  rw [build, filter_closeStatic, filter_foldl]
  rfl

theorem values_interleave (literals : List String) (values : List (Option String)) :
    (interleave literals values).filterMap Part.value? = values := by
  fun_induction interleave literals values with
  | case1 values => simp [Function.comp_def, Part.value?]
  | case2 literals => simp [Part.value?]
  | case3 literal literals value values ih =>
    change value :: (interleave literals values).filterMap Part.value? = _
    rw [ih]

end SegmentSequence

/-- Only evaluated segments can name the page to extend. -/
theorem extendTarget?_filter (page : SegmentSequence) :
    extendTarget? (page.filter Segment.isDynamic) = extendTarget? page := by
  induction page with
  | nil => rfl
  | cons segment page ih =>
    cases static : segment.isStatic with
    | true =>
      have hidden := Segment.isDynamic_of_isStatic static
      rw [List.filter_cons_of_neg (by simp [hidden]), ih, extendTarget?, extendTarget?,
        List.findSome?_cons, Segment.directive?_of_isStatic static]
      rfl
    | false =>
      have shown : segment.isDynamic = true := by
        cases kind : segment.kind <;> simp_all [Segment.isStatic, Segment.isDynamic]
      rw [List.filter_cons_of_pos shown, extendTarget?, extendTarget?, List.findSome?_cons,
        List.findSome?_cons, ← extendTarget?, ih, extendTarget?]

namespace Template

variable {literals expressions : List String}

theorem parts_eq (text : String → Result (Option String))
    (count : literals.length = expressions.length + 1) :
    parts text literals expressions = do
      let values ← expressions.mapM text
      return SegmentSequence.interleave literals values := by
  induction expressions generalizing literals with
  | nil =>
    obtain ⟨literal, rfl⟩ := List.length_eq_one_iff.mp count
    rfl
  | cons expression expressions ih =>
    cases literals with
    | nil => cases count
    | cons literal literals =>
      rw [parts, ih (Nat.succ.inj count), List.mapM_cons]
      simp only [bind_assoc, pure_bind]
      rfl

variable {environment : Expr.Environment} {name : String} {template : Template} {data : Expr.Value}

theorem produce_eq (count : template.literals.length = template.expressions.length + 1) :
    template.produce environment name data = do
      let values ← template.expressions.mapM (expressionText environment name data)
      return SegmentSequence.ofParts template.literals values := by
  rw [produce, parts_eq _ count, bind_assoc]
  rfl

/-- A page whose expressions all have a value extends what the first of the values names. -/
theorem extendTarget?_produce {value : String → Option String}
    (valued : ∀ e ∈ template.expressions, expressionText environment name data e = .ok (value e))
    (count : template.literals.length = template.expressions.length + 1) :
    ∃ page, template.produce environment name data = .ok page ∧
      extendTarget? page = extendTarget? (template.expressions.map fun e => .dynamic (value e)) := by
  have values : template.expressions.mapM (expressionText environment name data) =
      .ok (template.expressions.map value) := by
    rw [Result.mapM_eq_ok_iff, List.forall₂_map_right_iff, List.forall₂_same]
    exact valued
  refine ⟨SegmentSequence.ofParts template.literals (template.expressions.map value), ?_, ?_⟩
  · rw [produce_eq count, values]
    rfl
  · rw [← extendTarget?_filter, SegmentSequence.ofParts, SegmentSequence.filter_build,
      SegmentSequence.values_interleave, List.map_map]
    rfl

end Template

end BlockTemplates
