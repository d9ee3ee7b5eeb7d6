import BlockTemplates.Expr.Display
import BlockTemplates.Text.Blank

/-! The texts of numbers on a page. A float that is whole is written like any other float and loses `.0`
at its end; nothing else ends in that, since the fewest digits of a float have no zero behind the point.
Main statements: `mod_shortest`, `write_plain` and `pageText?_eq`. -/

namespace BlockTemplates

/-- A text without `.0` at its end, if it ends in that. -/
def wholeText (text : String) : String :=
  ((Text.stripEnd? ".0".toList text.toList).map String.ofList).getD text

namespace Decimal

section WholeText

theorem wholeText_append (text : String) : wholeText (text ++ ".0") = text := by
  have stripped : Text.stripEnd? ".0".toList (text ++ ".0").toList = some text.toList :=
    Text.stripEnd?_eq_some_iff.mpr String.toList_append
  unfold wholeText
  rw [stripped, Option.map_some, String.ofList_toList]
  rfl

theorem wholeText_eq {text : String} (other : ∀ before, text.toList ≠ before ++ ".0".toList) :
    wholeText text = text := by
  have kept : Text.stripEnd? ".0".toList text.toList = none := by
    rw [Option.eq_none_iff_forall_ne_some]
    intro before stripped
    exact other before (Text.stripEnd?_eq_some_iff.mp stripped)
  unfold wholeText
  rw [kept]
  rfl

theorem wholeText_of_getLast? {text : String} (last : text.toList.getLast? ≠ some '0') :
    wholeText text = text := by
  apply wholeText_eq
  intro before ends
  rw [ends, List.getLast?_append] at last
  exact last rfl

theorem wholeText_of_notMem {text : String} (pointless : '.' ∉ text.toList) : wholeText text = text := by
  apply wholeText_eq
  intro before ends
  rw [ends] at pointless
  exact pointless (List.mem_append_right before List.mem_cons_self)

end WholeText

section Digits

variable {mantissa : Nat} {exponent gridExponent : Int} {d : Digits}

theorem Digits.mod_strip {fuel : Nat} (filled : d.digits ≠ 0) (enough : d.digits ≤ fuel) :
    (Digits.strip fuel d).digits % 10 ≠ 0 := by
  induction fuel generalizing d with
  | zero => omega
  | succ fuel ih =>
    unfold Digits.strip
    split
    · exact ih (by dsimp only; omega) (by dsimp only; omega)
    · omega

theorem digits_ne_zero_of_nearestOn (nearest : nearestOn mantissa exponent gridExponent = some d) :
    d.digits ≠ 0 := by
  have positive {c : Nat} {inside : Bool} (taken : (decide (0 < c) && inside) = true) : c ≠ 0 := by
    rw [Bool.and_eq_true, decide_eq_true_eq] at taken
    omega
  unfold nearestOn at nearest
  dsimp only at nearest
  split at nearest
  · cases nearest
  · next taken _ =>
    obtain rfl := Option.some.inj nearest
    exact positive taken
  · obtain rfl := Option.some.inj nearest
    exact Nat.succ_ne_zero _
  · next taken _ =>
    split at nearest
    · obtain rfl := Option.some.inj nearest
      exact positive taken
    · obtain rfl := Option.some.inj nearest
      exact Nat.succ_ne_zero _

theorem digits_ne_zero_of_exactDigits (filled : mantissa ≠ 0) : (exactDigits mantissa exponent).digits ≠ 0 := by
  unfold exactDigits
  split
  · exact Nat.mul_ne_zero filled (Nat.ne_of_gt (twoTo_pos _))
  · exact Nat.mul_ne_zero filled (Nat.ne_of_gt (Nat.pow_pos (by decide)))

theorem mod_shortest (filled : mantissa ≠ 0) : (shortest mantissa exponent).digits % 10 ≠ 0 := by
  unfold shortest
  rw [if_neg filled]
  refine Digits.mod_strip ?_ (Nat.le_refl _)
  generalize searched : List.findSome? _ (List.range 24) = found
  cases found with
  | none => exact digits_ne_zero_of_exactDigits filled
  | some d =>
    obtain ⟨step, -, nearest⟩ := List.exists_of_findSome?_eq_some searched
    exact digits_ne_zero_of_nearestOn nearest

theorem getLast?_toDigits (n : Nat) : (Nat.toDigits 10 n).getLast? = some (n % 10).digitChar := by
  by_cases small : n < 10
  · rw [Nat.toDigits_of_lt_base small, Nat.mod_eq_of_lt small]
    rfl
  · rw [Nat.toDigits_of_base_le (by decide) (Nat.not_lt.mp small), List.getLast?_append]
    rfl

theorem digitChar_ne_zero : ∀ digit, digit < 10 → digit ≠ 0 → digit.digitChar ≠ '0' := by decide

/-- Digits without a zero at their end are written with a fraction of `.0` only where the other style
writes none. -/
theorem positionalText_cases (proper : 0 ≤ d.exponent ∨ d.digits % 10 ≠ 0) :
    positionalText true d = positionalText false d ++ ".0" ∨
      positionalText true d = positionalText false d ∧
        (positionalText false d).toList.getLast? ≠ some '0' := by
  unfold positionalText
  dsimp only
  by_cases whole : 0 ≤ d.exponent
  · left
    simp only [if_pos whole, if_true, Bool.false_eq_true, if_false, String.append_empty]
  · right
    have digit := proper.resolve_left whole
    simp only [if_neg whole, true_and]
    generalize spelled : List.replicate (d.exponent.natAbs + 1 - (Nat.toDigits 10 d.digits).length) '0' ++
      Nat.toDigits 10 d.digits = padded
    have last : padded.getLast? = some (d.digits % 10).digitChar := by
      rw [← spelled, List.getLast?_append, getLast?_toDigits]
      rfl
    have long : d.exponent.natAbs < padded.length := by
      rw [← spelled, List.length_append, List.length_replicate]
      omega
    have fraction : (padded.drop (padded.length - d.exponent.natAbs)).getLast? = padded.getLast? := by
      rw [List.getLast?_drop, if_neg (by omega)]
    rw [String.toList_append, List.getLast?_append, String.toList_ofList, fraction, last, Option.some_or]
    exact fun same => digitChar_ne_zero _ (Nat.mod_lt _ (by decide)) digit (Option.some.inj same)

end Digits

theorem write_plain (x : Float) : plain.write x = wholeText (fractional.write x) := by
  unfold Style.write
  cases decode x with
  | nan => exact (wholeText_of_getLast? (by decide)).symm
  | infinite negative => cases negative <;> exact (wholeText_of_getLast? (by decide)).symm
  | finite negative mantissa exponent =>
    simp only [plain, fractional, or_true, if_true]
    have proper : 0 ≤ (shortest mantissa exponent).exponent ∨ (shortest mantissa exponent).digits % 10 ≠ 0 := by
      by_cases zero : mantissa = 0
      · have vanishes : (shortest mantissa exponent).exponent = 0 := by rw [shortest, if_pos zero]
        exact .inl (Int.le_of_eq vanishes.symm)
      · exact .inr (mod_shortest zero)
    rcases positionalText_cases proper with whole | ⟨same, last⟩
    · rw [whole]
      cases negative with
      | false => exact (wholeText_append _).symm
      | true => exact (wholeText_append _).symm.trans (congrArg wholeText (String.append_assoc ..))
    · rw [same]
      cases negative with
      | false => exact (wholeText_of_getLast? last).symm
      | true =>
        refine (wholeText_of_getLast? ?_).symm
        rw [if_pos rfl, String.toList_append, List.getLast?_append]
        cases ended : (positionalText false (shortest mantissa exponent)).toList.getLast? with
        | none => decide
        | some c =>
          rw [ended] at last
          exact last

theorem wholeText_intText (n : Int) : wholeText (intText n) = intText n := by
  have digital (n : Nat) : '.' ∉ (natText n).toList := by
    unfold natText
    rw [String.toList_ofList]
    intro inside
    have digit := Nat.isDigit_of_mem_toDigits (by decide) (by decide) inside
    exact absurd digit (by decide)
  apply wholeText_of_notMem
  unfold intText
  split
  · rw [String.toList_append, List.mem_append]
    exact not_or.mpr ⟨by decide, digital _⟩
  · exact digital _

end Decimal

namespace Expr.Value

/-- Absent values add no text to a page. The text of a number loses `.0` at its end, and all other texts
are as they are. -/
theorem pageText?_eq (value : Value) : value.pageText? =
    if value.isAbsent then Option.none
    else some (if value.kind = .number then wholeText value.display else value.display) := by
  cases value with
  | int n => exact congrArg some (Decimal.wholeText_intText n).symm
  | float x => exact congrArg some (Decimal.write_plain x)
  | undefined => rfl
  | none => rfl
  | bool b => rfl
  | string safe s => rfl
  | bytes codes => rfl
  | list items => rfl
  | sequence sized items => rfl
  | table named entries => rfl
  | function f => rfl

end Expr.Value

end BlockTemplates
