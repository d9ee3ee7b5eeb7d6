import BlockTemplates.Proofs.Compose.Production

/-! Pages as literals and values by turns. In whatever order literals and values are given, the page
has a literal at both ends and one between any two values, and each of these holds the text that was
given at its place. Main statement: `build_woven`. -/

namespace BlockTemplates.SegmentSequence

def Part.text : Part → String
  | .literal text => text
  | .value text => text.getD ""

def Part.isValue (part : Part) : Bool := part.value?.isSome

/-- The text of the literals before, between and after the values of some parts. -/
def gaps (parts : List Part) : List String :=
  (parts.splitOnP Part.isValue).map fun run => String.join (run.map Part.text)

/-- The literals around so many values: those that are missing are empty, and those that are left
over come together after the last value. -/
def fitted (literals : List String) (count : Nat) : List String :=
  (List.range count).map (literals.getD · "") ++ [String.join (literals.drop count)]

structure Woven (literals : List String) (values : List (Option String)) (page : SegmentSequence) : Prop where
  fits : literals.length = values.length + 1
  length : page.length = 2 * values.length + 1
  count : page.dynamicCount = values.length
  static : ∀ i, page[2 * i]? = literals[i]?.map Segment.static
  dynamic : ∀ i, page[2 * i + 1]? = values[i]?.map Segment.dynamic

namespace Woven

variable {literals : List String} {values : List (Option String)} {page other : SegmentSequence}

theorem single (literal : String) : Woven [literal] [] [.static literal] where
  fits := rfl
  length := rfl
  count := rfl
  static i := by cases i <;> rfl
  dynamic i := by cases i <;> rfl

theorem cons (woven : Woven literals values page) (literal : String) (value : Option String) :
    Woven (literal :: literals) (value :: values) (.static literal :: .dynamic value :: page) where
  fits := congrArg (· + 1) woven.fits
  length := congrArg (· + 2) woven.length
  count := congrArg (· + 1) woven.count
  static i := by
    cases i with
    | zero => rfl
    | succ i => exact woven.static i
  dynamic i := by
    cases i with
    | zero => rfl
    | succ i => exact woven.dynamic i

theorem unique (woven : Woven literals values page) (woven' : Woven literals values other) : page = other := by
  apply List.ext_getElem?
  intro position
  -- literals stand at the even positions and values at the odd ones
  obtain ⟨i, rfl | rfl⟩ : ∃ i, position = 2 * i ∨ position = 2 * i + 1 := ⟨position / 2, by omega⟩
  · rw [woven.static, woven'.static]
  · rw [woven.dynamic, woven'.dynamic]

end Woven

section Gaps

theorem modifyHead_empty (texts : List String) : texts.modifyHead ("" ++ ·) = texts := by
  cases texts with
  | nil => rfl
  | cons text texts => rw [List.modifyHead_cons, String.empty_append]

theorem gaps_nil : gaps [] = [""] := by simp [gaps]

theorem gaps_literal (text : String) (parts : List Part) :
    gaps (.literal text :: parts) = (gaps parts).modifyHead (text ++ ·) := by
  obtain ⟨run, runs, same⟩ := List.exists_cons_of_ne_nil (List.splitOnP_ne_nil Part.isValue parts)
  have kept : Part.isValue (.literal text) = false := rfl
  simp [gaps, List.splitOnP_cons_eq_if_modifyHead, kept, same, Part.text]

theorem gaps_value (value : Option String) (parts : List Part) :
    gaps (.value value :: parts) = "" :: gaps parts := by
  have cut : Part.isValue (.value value) = true := rfl
  simp [gaps, List.splitOnP_cons_eq_if_modifyHead, cut]

theorem fitted_nil (count : Nat) : fitted [] (count + 1) = "" :: fitted [] count := by
  simp [fitted, List.range_succ_eq_map, Function.comp_def]

theorem fitted_cons (literal : String) (literals : List String) (count : Nat) :
    fitted (literal :: literals) (count + 1) = literal :: fitted literals count := by
  simp [fitted, List.range_succ_eq_map, Function.comp_def]

theorem fitted_of_length {literals : List String} {count : Nat} (fits : literals.length = count + 1) :
    fitted literals count = literals := by
  induction count generalizing literals with
  | zero =>
    obtain ⟨literal, rfl⟩ := List.length_eq_one_iff.mp fits
    simp [fitted]
  | succ count ih =>
    cases literals with
    | nil => cases fits
    | cons literal literals => rw [fitted_cons, ih (Nat.succ.inj fits)]

theorem gaps_literals (literals : List String) :
    gaps (literals.map .literal) = [String.join literals] := by
  induction literals with
  | nil => exact gaps_nil
  | cons literal literals ih => simp [gaps_literal, ih]

theorem gaps_values (values : List (Option String)) :
    gaps (values.map .value) = fitted [] values.length := by
  induction values with
  | nil => exact gaps_nil
  | cons value values ih => rw [List.map_cons, gaps_value, ih, List.length_cons, fitted_nil]

theorem gaps_interleave (literals : List String) (values : List (Option String)) :
    gaps (interleave literals values) = fitted literals values.length := by
  fun_induction interleave literals values with
  | case1 values => exact gaps_values values
  | case2 literals => exact gaps_literals literals
  | case3 literal literals value values ih =>
    rw [gaps_literal, gaps_value, ih, List.length_cons, fitted_cons, List.modifyHead_cons,
      String.append_empty]

end Gaps

section Building

variable (before page : SegmentSequence)

theorem closeStatic_concat (last : Segment) :
    closeStatic (before ++ [last]) = before ++ closeStatic [last] := by
  induction before with
  | nil => rfl
  | cons first before ih =>
    cases before with
    | nil => rfl
    | cons second before => exact congrArg (first :: ·) ih

theorem appendLiteral_concat (last : Segment) (text : String) :
    appendLiteral (before ++ [last]) text = before ++ appendLiteral [last] text := by
  induction before with
  | nil => rfl
  | cons first before ih =>
    cases before with
    | nil => rfl
    | cons second before => exact congrArg (first :: ·) ih

theorem append_concat (last : Segment) (part : Part) :
    append (before ++ [last]) part = before ++ append [last] part := by
  cases part with
  | literal text => exact appendLiteral_concat before last text
  | value value => rw [append, appendValue, closeStatic_concat, List.append_assoc]; rfl

theorem append_closeStatic (part : Part) : append (closeStatic page) part = append page part := by
  rcases List.eq_nil_or_concat page with rfl | ⟨before, last, rfl⟩
  · cases part with
    | literal text => simp [append, appendLiteral, closeStatic, Segment.static, Segment.isStatic, Segment.replace]
    | value value => rfl
  · rw [List.concat_eq_append, closeStatic_concat, append_concat]
    obtain ⟨kind, value⟩ := last
    cases kind with
    | static => exact append_concat before _ part
    | dynamic =>
      have closed : before ++ closeStatic [⟨.dynamic, value⟩] =
          (before ++ [⟨.dynamic, value⟩]) ++ [.static ""] := by
        rw [List.append_assoc]
        rfl
      rw [closed, append_concat, List.append_assoc]
      cases part with
      | literal text => simp [append, appendLiteral, Segment.static, Segment.isStatic, Segment.replace]
      | value value => rfl

theorem closeStatic_closeStatic : closeStatic (closeStatic page) = closeStatic page := by
  have again := append_closeStatic page (.value none)
  exact List.append_cancel_right again

theorem closeStatic_foldl (parts : List Part) :
    closeStatic (parts.foldl append (closeStatic page)) = closeStatic (parts.foldl append page) := by
  cases parts with
  | nil => exact closeStatic_closeStatic page
  | cons part parts => rw [List.foldl_cons, List.foldl_cons, append_closeStatic]

theorem woven_foldl (text : String) (parts : List Part) :
    ∃ page, closeStatic (parts.foldl append (before ++ [.static text])) = before ++ page ∧
      Woven ((gaps parts).modifyHead (text ++ ·)) (parts.filterMap Part.value?) page := by
  -- `text` is what the literal holds that the parts still to come go on with
  induction parts generalizing before text with
  | nil =>
    refine ⟨[.static text], closeStatic_concat before _, ?_⟩
    rw [gaps_nil, List.modifyHead_cons, String.append_empty]
    exact .single text
  | cons part parts ih =>
    cases part with
    | literal more =>
      have joined : append (before ++ [.static text]) (.literal more) = before ++ [.static (text ++ more)] :=
        append_concat before _ _
      obtain ⟨page, built, woven⟩ := ih before (text ++ more)
      refine ⟨page, by rw [List.foldl_cons, joined, built], ?_⟩
      rw [gaps_literal, List.modifyHead_modifyHead, List.filterMap_cons_none rfl]
      simpa only [Function.comp_def, ← String.append_assoc] using woven
    | value value =>
      have added : append (before ++ [.static text]) (.value value) =
          before ++ [.static text] ++ [.dynamic value] := by
        rw [append_concat, List.append_assoc]
        rfl
      -- closing the page here makes no difference, and gives the next literal its start
      have closed : closeStatic (before ++ [.static text] ++ [.dynamic value]) =
          before ++ [.static text, .dynamic value] ++ [.static ""] := by
        rw [closeStatic_concat, List.append_assoc, List.append_assoc]
        rfl
      obtain ⟨page, built, woven⟩ := ih (before ++ [.static text, .dynamic value]) ""
      refine ⟨.static text :: .dynamic value :: page, ?_, ?_⟩
      · rw [List.foldl_cons, added, ← closeStatic_foldl, closed, built, List.append_assoc]
        rfl
      · rw [modifyHead_empty] at woven
        have first : Part.value? (.value value) = some value := rfl
        rw [gaps_value, List.modifyHead_cons, String.append_empty, List.filterMap_cons_some first]
        exact woven.cons text value

theorem flatten_closeStatic : flatten (closeStatic page) = flatten page := by
  fun_induction closeStatic page with
  | case1 => simp [Segment.static]
  | case2 => rfl
  | case3 => simp [Segment.static]
  | case4 first second rest ih => rw [flatten_cons, flatten_cons, ih]

theorem flatten_appendLiteral (text : String) :
    flatten (appendLiteral page text) = flatten page ++ text := by
  fun_induction appendLiteral page text with
  | case1 => simp [Segment.static]
  | case2 => simp [Segment.replace]
  | case3 => simp [Segment.static]
  | case4 first second rest text ih => rw [flatten_cons, flatten_cons, ih, String.append_assoc]

theorem flatten_foldl (parts : List Part) :
    flatten (parts.foldl append page) = flatten page ++ String.join (parts.map Part.text) := by
  induction parts generalizing page with
  | nil => simp
  | cons part parts ih =>
    have added : flatten (append page part) = flatten page ++ part.text := by
      cases part with
      | literal text => exact flatten_appendLiteral page text
      | value value =>
        rw [append, appendValue, flatten_append, flatten_closeStatic, flatten_cons, flatten_nil,
          String.append_empty]
        rfl
    rw [List.foldl_cons, ih, added, List.map_cons, String.join_cons, String.append_assoc]

end Building

theorem woven_build (parts : List Part) :
    Woven (gaps parts) (parts.filterMap Part.value?) (build parts) := by
  obtain ⟨page, built, woven⟩ := woven_foldl [] "" parts
  have same : build parts = page := by
    rw [build, ← closeStatic_foldl]
    exact built
  rwa [same, ← modifyHead_empty (gaps parts)]

theorem woven_ofParts (literals : List String) (values : List (Option String)) :
    Woven (fitted literals values.length) values (ofParts literals values) := by
  have woven := woven_build (interleave literals values)
  rwa [gaps_interleave, values_interleave] at woven

theorem flatten_build (parts : List Part) : flatten (build parts) = String.join (parts.map Part.text) := by
  rw [build, flatten_closeStatic, flatten_foldl, flatten_nil, String.empty_append]

/-- Parts in any order make a page of their values with the literals before, between and after these
joined, and the text of the page is that of the parts in order. Lists of literals and values of any
lengths make a page of all the values with the literals fitted around them. -/
theorem build_woven :
    (∀ parts, Woven (gaps parts) (parts.filterMap Part.value?) (build parts) ∧
      flatten (build parts) = String.join (parts.map Part.text)) ∧
    ∀ literals values, Woven (fitted literals values.length) values (ofParts literals values) :=
  ⟨fun parts => ⟨woven_build parts, flatten_build parts⟩, woven_ofParts⟩

example : build [.literal "a", .literal "b", .value (some "1"), .value none] =
    [.static "ab", .dynamic (some "1"), .static "", .dynamic none, .static ""] := by decide

end BlockTemplates.SegmentSequence
