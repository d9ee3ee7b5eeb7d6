import BlockTemplates.Proofs.Text.Spacing
import Mathlib.Data.List.TakeWhile

/-! Which blanks minifying deletes: those between two tags of one literal and those at the outer ends
of a page. Main statement: `minify_thinned`, these blanks go, all other characters stay in their
order, and there is nothing left for a second time. -/

namespace BlockTemplates

open Text (isBlank ink ink_append trimStart trimEnd)

/-- An ordered deletion from a text that stands behind `before`. The blanks that go are those for which
the rule holds of the characters before and after them; every other character stays. -/
inductive Thinned (rule : List Char → List Char → Prop) : List Char → List Char → List Char → Prop
  | nil {before : List Char} : Thinned rule before [] []
  | keep {before after kept : List Char} {c : Char} (stays : ¬ (isBlank c = true ∧ rule before after))
      (rest : Thinned rule (before ++ [c]) after kept) : Thinned rule before (c :: after) (c :: kept)
  | drop {before after kept : List Char} {c : Char} (goes : isBlank c = true ∧ rule before after)
      (rest : Thinned rule (before ++ [c]) after kept) : Thinned rule before (c :: after) kept

/-- The rule holds of texts or not whatever blanks are in them. -/
def SeesInk (rule : List Char → List Char → Prop) : Prop :=
  ∀ ⦃before before' after after'⦄, ink before = ink before' → ink after = ink after' →
    rule before after → rule before' after'

section Deletion

variable {rule rule' : List Char → List Char → Prop} {before before' text kept kept' : List Char}

theorem ink_append_congr {first second : List Char} (same : ink first = ink second) (s : List Char) :
    ink (first ++ s) = ink (second ++ s) := by
  rw [ink_append, ink_append, same]

theorem ink_append_blank {c : Char} (blank : isBlank c = true) (s : List Char) : ink (s ++ [c]) = ink s := by
  have none : ink [c] = [] := Text.ink_of_blank (by simpa using blank)
  rw [ink_append, none, List.append_nil]

theorem Thinned.ink_eq (thinned : Thinned rule before text kept) : ink kept = ink text := by
  induction thinned with
  | nil => rfl
  | keep _ _ ih =>
    unfold ink at *
    rw [List.filter_cons, List.filter_cons, ih]
  | drop goes _ ih =>
    unfold ink at *
    simp [ih, goes.1]

theorem Thinned.unique (thinned : Thinned rule before text kept) (thinned' : Thinned rule before text kept') :
    kept = kept' := by
  induction thinned generalizing kept' with
  | nil =>
    cases thinned'
    rfl
  | keep stays _ ih =>
    cases thinned' with
    | keep _ rest => rw [ih rest]
    | drop goes _ => exact absurd goes stays
  | drop goes _ ih =>
    cases thinned' with
    | keep stays _ => exact absurd goes stays
    | drop _ rest => exact ih rest

theorem thinned_self
    (stay : ∀ left c right, text = left ++ c :: right → ¬ (isBlank c = true ∧ rule (before ++ left) right)) :
    Thinned rule before text text := by
  induction text generalizing before with
  | nil => exact .nil
  | cons c text ih =>
    refine .keep (by simpa using stay [] c text rfl) (ih fun left d right whole => ?_)
    rw [List.append_assoc]
    exact stay (c :: left) d right (by rw [whole]; rfl)

/-- Two deletions one after the other are one, where the second rule does not see what went before. -/
theorem Thinned.trans (thinned : Thinned rule before text kept) (thinned' : Thinned rule' before' kept kept')
    (sees : SeesInk rule') (same : ink before' = ink before) :
    Thinned (fun before after => rule before after ∨ rule' before after) before text kept' := by
  -- `before'` is what the first deletion has left of `before`, so that only their ink is the same.
  induction thinned generalizing before' kept' with
  | nil =>
    cases thinned'
    exact .nil
  | @keep before after kept c stays rest ih =>
    have same' : ink (before' ++ [c]) = ink (before ++ [c]) := ink_append_congr same [c]
    cases thinned' with
    | keep stays' rest' =>
      refine .keep ?_ (ih rest' same')
      rintro ⟨blank, holds | holds⟩
      · exact stays ⟨blank, holds⟩
      · exact stays' ⟨blank, sees same.symm rest.ink_eq.symm holds⟩
    | drop goes rest' =>
      exact .drop ⟨goes.1, .inr (sees same rest.ink_eq goes.2)⟩ (ih rest' same')
  | drop goes rest ih =>
    exact .drop ⟨goes.1, .inl goes.2⟩ (ih thinned' (same.trans (ink_append_blank goes.1 _).symm))

theorem Thinned.again (thinned : Thinned rule before text kept) (sees : SeesInk rule)
    (same : ink before' = ink before) : Thinned rule before' kept kept := by
  induction thinned generalizing before' with
  | nil => exact .nil
  | @keep before after kept c stays rest ih =>
    have same' : ink (before' ++ [c]) = ink (before ++ [c]) := ink_append_congr same [c]
    exact .keep (fun goes => stays ⟨goes.1, sees same rest.ink_eq goes.2⟩) (ih same')
  | drop goes rest ih => exact ih (same.trans (ink_append_blank goes.1 _).symm)

end Deletion

/-- A run of blanks around this place stands directly behind the end of a tag and directly before the
start of another one. -/
def BetweenTags (before after : List Char) : Prop :=
  ∃ front left right back, before = front ++ '>' :: left ∧ after = right ++ '<' :: back ∧
    (∀ c ∈ left, isBlank c = true) ∧ ∀ c ∈ right, isBlank c = true

/-- The blanks that minifying deletes from a literal, of which it is told whether it is the first one
of a page and whether it is the last one. -/
def Spare (first last : Prop) (before after : List Char) : Prop :=
  BetweenTags before after ∨ (first ∧ ∀ c ∈ before, isBlank c = true) ∨
    (last ∧ ∀ c ∈ after, isBlank c = true)

section Ink

theorem ink_eq_nil_iff {s : List Char} : ink s = [] ↔ ∀ c ∈ s, isBlank c = true := by
  simp [ink, List.filter_eq_nil_iff]

theorem head?_ink_eq_some_iff {s : List Char} {mark : Char} (marked : isBlank mark = false) :
    (ink s).head? = some mark ↔
      ∃ blanks rest, s = blanks ++ mark :: rest ∧ ∀ c ∈ blanks, isBlank c = true := by
  rw [ink, List.head?_filter, List.find?_eq_some_iff_append]
  simp [marked]

theorem getLast?_ink_eq_some_iff {s : List Char} {mark : Char} (marked : isBlank mark = false) :
    (ink s).getLast? = some mark ↔
      ∃ rest blanks, s = rest ++ mark :: blanks ∧ ∀ c ∈ blanks, isBlank c = true := by
  rw [List.getLast?_eq_head?_reverse, ink, ← List.filter_reverse, ← ink, head?_ink_eq_some_iff marked]
  constructor
  · rintro ⟨blanks, rest, whole, blank⟩
    refine ⟨rest.reverse, blanks.reverse, ?_, by simpa using blank⟩
    simpa using congrArg List.reverse whole
  · rintro ⟨rest, blanks, rfl, blank⟩
    exact ⟨blanks.reverse, rest.reverse, by simp, by simpa using blank⟩

theorem betweenTags_iff {before after : List Char} :
    BetweenTags before after ↔ (ink before).getLast? = some '>' ∧ (ink after).head? = some '<' := by
  rw [getLast?_ink_eq_some_iff rfl, head?_ink_eq_some_iff rfl]
  constructor
  · rintro ⟨front, left, right, back, before, after, blank, blank'⟩
    exact ⟨⟨front, left, before, blank⟩, ⟨right, back, after, blank'⟩⟩
  · rintro ⟨⟨front, left, before, blank⟩, ⟨right, back, after, blank'⟩⟩
    exact ⟨front, left, right, back, before, after, blank, blank'⟩

theorem seesInk_betweenTags : SeesInk BetweenTags := by
  intro before before' after after' same same'
  rw [betweenTags_iff, betweenTags_iff, same, same']
  exact id

theorem seesInk_before (condition : Prop) :
    SeesInk fun before _ => condition ∧ ∀ c ∈ before, isBlank c = true := by
  rintro before before' after after' same - ⟨holds, blank⟩
  exact ⟨holds, ink_eq_nil_iff.mp (same.symm.trans (ink_eq_nil_iff.mpr blank))⟩

theorem seesInk_after (condition : Prop) :
    SeesInk fun _ after => condition ∧ ∀ c ∈ after, isBlank c = true := by
  rintro before before' after after' - same ⟨holds, blank⟩
  exact ⟨holds, ink_eq_nil_iff.mp (same.symm.trans (ink_eq_nil_iff.mpr blank))⟩

theorem SeesInk.or {rule rule' : List Char → List Char → Prop} (sees : SeesInk rule) (sees' : SeesInk rule') :
    SeesInk fun before after => rule before after ∨ rule' before after :=
  fun _ _ _ _ same same' => Or.imp (sees same same') (sees' same same')

theorem seesInk_spare (first last : Prop) : SeesInk (Spare first last) :=
  seesInk_betweenTags.or ((seesInk_before first).or (seesInk_after last))

end Ink

section Literal

theorem head?_trimStart (s : List Char) : (trimStart s).head? = (ink s).head? := by
  induction s with
  | nil => rfl
  | cons c s ih => cases blank : isBlank c <;> simp_all [trimStart, ink]

theorem opensTag_iff {s : List Char} : opensTag s = true ↔ (ink s).head? = some '<' := by
  rw [opensTag, head?_trimStart, decide_eq_true_eq]

/-- The flag tells whether the last character before the text that is no blank ends a tag. -/
theorem thinned_collapseFrom {before : List Char} {gap : Bool}
    (since : gap = true ↔ (ink before).getLast? = some '>') (text : List Char) :
    Thinned BetweenTags before text (collapseFrom gap text) := by
  induction text generalizing before gap with
  | nil => exact .nil
  | cons c rest ih =>
    have behind (marked : isBlank c = false) : (ink (before ++ [c])).getLast? = some c := by
      simp [ink, marked]
    unfold collapseFrom
    split
    · next tag =>
      subst tag
      exact .keep (fun goes => Bool.noConfusion goes.1) (ih (by simp [behind rfl]))
    · next plain =>
      split
      · next dropped =>
        obtain ⟨open', blank⟩ := Bool.and_eq_true_iff.mp dropped
        have since' : true = true ↔ (ink (before ++ [c])).getLast? = some '>' := by
          rw [ink_append_blank blank, ← since, open']
        split
        · next opens =>
          exact .drop ⟨blank, betweenTags_iff.mpr ⟨since.mp open', opensTag_iff.mp opens⟩⟩ (ih since')
        · next opens =>
          refine .keep ?_ (ih since')
          rintro ⟨-, between⟩
          exact opens (opensTag_iff.mpr (betweenTags_iff.mp between).2)
      · next kept =>
        -- Either `c` is no blank, or it is one that no tag has ended before.
        have apart : ¬ (isBlank c = true ∧ BetweenTags before rest) := by
          rintro ⟨blank, between⟩
          exact kept (by rw [since.mpr (betweenTags_iff.mp between).1, blank]; rfl)
        refine .keep apart (ih ?_)
        cases blank : isBlank c with
        | true =>
          rw [blank, Bool.and_true] at kept
          rw [ink_append_blank blank, ← since]
          simpa using kept
        | false => simp [behind blank, plain]

theorem thinned_trimStart {before : List Char} (outer : ∀ c ∈ before, isBlank c = true) (text : List Char) :
    Thinned (fun before _ => ∀ c ∈ before, isBlank c = true) before text (trimStart text) := by
  induction text generalizing before with
  | nil => exact .nil
  | cons c text ih =>
    cases blank : isBlank c with
    | true =>
      have outer' : ∀ x ∈ before ++ [c], isBlank x = true := by
        simpa [or_imp, forall_and, blank] using outer
      rw [trimStart, List.dropWhile_cons_of_pos blank]
      exact .drop ⟨blank, outer⟩ (ih outer')
    | false =>
      rw [trimStart, List.dropWhile_cons_of_neg (by simp [blank])]
      refine .keep (by simp [blank]) (thinned_self ?_)
      rintro left d right - ⟨-, outer'⟩
      have blank' : isBlank c = true := outer' c (by simp)
      rw [blank] at blank'
      cases blank'

theorem trimEnd_cons (c : Char) (text : List Char) :
    trimEnd (c :: text) = if isBlank c && text.all isBlank then trimEnd text else c :: trimEnd text := by
  have dropped : text.reverse.dropWhile isBlank = [] ↔ text.all isBlank = true := by
    simp [List.dropWhile_eq_nil_iff]
  unfold trimEnd
  rw [List.reverse_cons, List.dropWhile_append]
  by_cases all : text.all isBlank = true
  · cases blank : isBlank c <;> simp [dropped.mpr all, all, blank]
  · have left : text.reverse.dropWhile isBlank ≠ [] := fun nothing => all (dropped.mp nothing)
    simp [left, Bool.eq_false_iff.mpr all]

theorem thinned_trimEnd (before text : List Char) :
    Thinned (fun _ after => ∀ c ∈ after, isBlank c = true) before text (trimEnd text) := by
  induction text generalizing before with
  | nil => exact .nil
  | cons c text ih =>
    have outer : (isBlank c && text.all isBlank) = true ↔
        isBlank c = true ∧ ∀ c ∈ text, isBlank c = true := by
      rw [Bool.and_eq_true, List.all_eq_true]
    rw [trimEnd_cons]
    split
    · next goes => exact .drop (outer.mp goes) (ih _)
    · next stays => exact .keep (fun goes => stays (outer.mpr goes)) (ih _)

theorem Thinned.conditional {rule : List Char → List Char → Prop} {before text kept : List Char}
    (thinned : Thinned rule before text kept) (condition : Prop) [Decidable condition] :
    Thinned (fun before after => condition ∧ rule before after) before text
      (if condition then kept else text) := by
  by_cases holds : condition
  · simpa only [holds, true_and, if_true] using thinned
  · rw [if_neg holds]
    exact thinned_self fun _ _ _ _ goes => holds goes.2.1

def tidy (first last : Prop) [Decidable first] [Decidable last] (text : String) : String :=
  let collapsed := collapseFrom false text.toList
  let started := if first then trimStart collapsed else collapsed
  String.ofList (if last then trimEnd started else started)

theorem thinned_tidy (first last : Prop) [Decidable first] [Decidable last] (text : String) :
    Thinned (Spare first last) [] text.toList (tidy first last text).toList := by
  unfold tidy
  rw [String.toList_ofList]
  have collapsed : Thinned BetweenTags [] text.toList (collapseFrom false text.toList) :=
    thinned_collapseFrom (by simp [ink]) _
  generalize collapseFrom false text.toList = kept at collapsed ⊢
  have started := (thinned_trimStart (List.forall_mem_nil _) kept).conditional first
  have ended := (thinned_trimEnd [] (if first then trimStart kept else kept)).conditional last
  have trimmed := started.trans ended (seesInk_after last) rfl
  exact collapsed.trans trimmed ((seesInk_before first).or (seesInk_after last)) rfl

end Literal

section Page

theorem length_modifyLast {α : Type} (f : α → α) (items : List α) :
    (modifyLast f items).length = items.length := by
  fun_induction modifyLast f items with
  | case1 => rfl
  | case2 => rfl
  | case3 first second rest ih => rw [List.length_cons, ih]; rfl

theorem getElem?_modifyLast {α : Type} (f : α → α) (items : List α) (i : Nat) :
    (modifyLast f items)[i]? = if i + 1 = items.length then items[i]?.map f else items[i]? := by
  fun_induction modifyLast f items generalizing i with
  | case1 => simp
  | case2 last => cases i <;> simp
  | case3 first second rest ih =>
    cases i with
    | zero => simp
    | succ i => simp [ih]

theorem length_minify (literals : List String) : (minify literals).length = literals.length := by
  rw [minify, length_modifyLast, List.length_modifyHead, List.length_map]

theorem getElem?_minify (literals : List String) (i : Nat) :
    (minify literals)[i]? = literals[i]?.map (tidy (i = 0) (i + 1 = literals.length)) := by
  rw [minify, getElem?_modifyLast, List.length_modifyHead, List.length_map, List.getElem?_modifyHead,
    List.getElem?_map]
  cases literals[i]? with
  | none => simp
  | some text =>
    unfold tidy collapse
    split <;> split <;> simp

/-- The literals of a page stay as many as they are and in their order. A character of a literal goes
when it is a blank between two tags, or one before all else in the first literal or after all else in
the last one; all others stay in their order, and minifying again changes nothing. -/
theorem minify_thinned (literals : List String) :
    (minify literals).length = literals.length ∧
      (∀ i, Option.Rel
        (fun text kept => Thinned (Spare (i = 0) (i + 1 = literals.length)) [] text.toList kept.toList)
        literals[i]? (minify literals)[i]?) ∧
      minify (minify literals) = minify literals := by
  refine ⟨length_minify literals, fun i => ?_, ?_⟩
  · rw [getElem?_minify]
    cases literals[i]? with
    | none => exact .none
    | some text => exact .some (thinned_tidy _ _ text)
  · apply List.ext_getElem?
    intro i
    rw [getElem?_minify (minify literals), length_minify, getElem?_minify]
    cases literals[i]? with
    | none => rfl
    | some text =>
      have once := thinned_tidy (i = 0) (i + 1 = literals.length) text
      have twice := thinned_tidy (i = 0) (i + 1 = literals.length)
        (tidy (i = 0) (i + 1 = literals.length) text)
      have same := twice.unique (once.again (seesInk_spare _ _) rfl)
      exact congrArg some (String.toList_inj.mp same)

example : minify [" <b>\n <i> x </i> ", " </b> "] = ["<b><i> x </i> ", " </b>"] := by decide

end Page

end BlockTemplates
