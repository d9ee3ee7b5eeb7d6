import BlockTemplates.Decimal.Binary64
import Mathlib.Data.Int.Cast.Lemmas
import Mathlib.Tactic.Ring

/-! Rounding does not lose numbers. What is rounded is not zero if it was not zero and no smaller than
the smallest float, and neither packing nor widening makes it zero or no number. Main statements:
`kind_ofInt` and `kind_widen`. -/

namespace BlockTemplates.Decimal

open Float.Model Float.Model.UnpackedFloat

/-! ### Shifts -/

theorem log2_half (m : Nat) : (m / 2).log2 = m.log2 - 1 := by
  rw [Nat.log2_def m]
  split
  · rfl
  · next small =>
    rw [Nat.div_eq_of_lt (by omega), Nat.log2_zero]

theorem log2_shiftRight (m k : Nat) : (m >>> k).log2 = m.log2 - k := by
  induction k with
  | zero => rfl
  | succ k ih => rw [Nat.shiftRight_succ, log2_half, ih, Nat.sub_sub]

theorem log2_shiftLeft {m : Nat} (positive : 0 < m) (k : Nat) : (m <<< k).log2 = m.log2 + k := by
  induction k with
  | zero => rfl
  | succ k ih =>
    have filled : m <<< k ≠ 0 := by simpa using positive.ne'
    rw [Nat.shiftLeft_succ, Nat.log2_two_mul filled, ih, Nat.add_assoc]

theorem shiftRight_pos {m k : Nat} (positive : 0 < m) (short : k ≤ m.log2) : 0 < m >>> k := by
  induction k with
  | zero => exact positive
  | succ k ih =>
    have before := ih (by omega)
    have long : (m >>> k).log2 ≠ 0 := by
      rw [log2_shiftRight]
      omega
    rw [Nat.shiftRight_succ]
    refine Nat.div_pos ?_ (by decide)
    by_contra small
    have one : m >>> k = 1 := by omega
    rw [one] at long
    exact long (by decide)

theorem mantissa_shiftRight (extended : ExtendedMantissa) (k : Nat) :
    (extended >>> k).mantissa = extended.mantissa >>> k := by
  induction k with
  | zero => rfl
  | succ k ih =>
    rw [Nat.shiftRight_succ, ← ih]
    rfl

theorem mantissa_ofMantissaAndAccuracy (m : Nat) (accuracy : Accuracy) :
    (ExtendedMantissa.ofMantissaAndAccuracy m accuracy).mantissa = m := by
  cases accuracy with
  | exact => rfl
  | inexact half => cases half <;> rfl

theorem le_roundedMantissa (extended : ExtendedMantissa) : extended.mantissa ≤ extended.roundedMantissa := by
  obtain ⟨m, round, sticky⟩ := extended
  cases round <;> cases sticky <;>
    simp [ExtendedMantissa.roundedMantissa, ExtendedMantissa.accuracy, Accuracy.roundToNearestEven]

/-! ### Rounding -/

/-- A mantissa and an exponent that fit a format, if not always its largest exponent. -/
structure Fits (format : Format) (mantissa : Nat) (exponent : Int) : Prop where
  positive : 0 < mantissa
  short : mantissa.log2 + 1 ≤ format.mantissaBits
  least : format.minExponent ≤ exponent

theorem fits_shiftToTargetExponent {format : Format} {mantissa : Nat} {exponent : Int} (accuracy : Accuracy)
    (positive : 0 < mantissa) (large : format.minExponent ≤ mantissa.log2 + exponent) :
    Fits format (shiftToTargetExponent format mantissa exponent accuracy).1.mantissa
      (shiftToTargetExponent format mantissa exponent accuracy).2 := by
  have bits : 1 ≤ format.mantissaBits := Nat.le_add_right 1 _
  obtain ⟨target, same⟩ : ∃ target, target = format.targetExponent (totalExponent mantissa exponent) := ⟨_, rfl⟩
  have bound : target = max (mantissa.log2 + 1 + exponent - format.mantissaBits) format.minExponent := same
  have shifted : (shiftToTargetExponent format mantissa exponent accuracy).1.mantissa =
      mantissa >>> (target - exponent).toNat := by
    rw [same, ← mantissa_ofMantissaAndAccuracy mantissa accuracy, ← mantissa_shiftRight]
    rw [mantissa_ofMantissaAndAccuracy]
    rfl
  have raised : (shiftToTargetExponent format mantissa exponent accuracy).2 =
      exponent + (target - exponent).toNat := by
    rw [same]
    rfl
  refine ⟨?_, ?_, ?_⟩
  · rw [shifted]
    exact shiftRight_pos positive (by omega)
  · rw [shifted, log2_shiftRight]
    omega
  · rw [raised]
    omega

theorem exists_roundWithAccuracy (format : Format) {mantissa : Nat} {exponent : Int} (sign : Sign)
    (accuracy : Accuracy) (positive : 0 < mantissa) (large : format.minExponent ≤ mantissa.log2 + exponent) :
    ∃ (mantissa' : Nat) (exponent' : Int) (fits : Fits format mantissa' exponent'),
      roundWithAccuracy format sign mantissa exponent accuracy =
        .finite sign mantissa' exponent' fits.positive := by
  -- rounding up may make the mantissa one bit too long, so it is shifted once more
  have first := fits_shiftToTargetExponent accuracy positive large
  have kept := le_roundedMantissa (shiftToTargetExponent format mantissa exponent accuracy).1
  have second := fits_shiftToTargetExponent .exact (Nat.lt_of_lt_of_le first.positive kept)
    (Int.le_trans first.least (Int.le_add_of_nonneg_left (Int.natCast_nonneg _)))
  refine ⟨_, _, second, ?_⟩
  unfold roundWithAccuracy
  exact dif_neg second.positive.ne'

theorem exists_round (format : Format) {mantissa : Nat} {exponent : Int} (sign : Sign)
    (positive : 0 < mantissa) (large : format.minExponent ≤ mantissa.log2 + exponent) :
    ∃ (mantissa' : Nat) (exponent' : Int) (fits : Fits format mantissa' exponent'),
      UnpackedFloat.round format sign mantissa exponent = .finite sign mantissa' exponent' fits.positive := by
  unfold UnpackedFloat.round decreaseExponent
  apply exists_roundWithAccuracy
  · simpa [Nat.shiftLeft_eq] using positive
  · rw [log2_shiftLeft positive]
    omega

/-! ### Packing -/

/-- A float without its size. -/
inductive FloatKind where
  | nan
  | zero
  | nonzero
  deriving DecidableEq

def kind : UnpackedFloat → FloatKind
  | .notANumber => .nan
  | .zero _ => .zero
  | .infinity _ => .nonzero
  | .finite .. => .nonzero

theorem kind_unpack {format : Format} (bits : BitVec format.numBits) :
    kind (unpack format bits) =
      if unpackExponent bits = -1#_ then if unpackMantissa bits = 0#_ then .nonzero else .nan
      else if unpackExponent bits = 0#_ then if unpackMantissa bits = 0#_ then .zero else .nonzero
      else .nonzero := by
  unfold UnpackedFloat.unpack
  dsimp only
  rw [apply_ite kind, apply_ite kind, apply_ite kind, apply_dite kind]
  rfl

/-- The bits of a number other than zero: the largest exponent goes with no mantissa alone, and the
least one with any other. -/
theorem kind_packComponents {format : Format} (sign : Sign) {exponent : BitVec format.exponentBits}
    {mantissa : BitVec format.mantissaBitsWithoutImplicit}
    (bits : (exponent = -1#_ ∧ mantissa = 0#_) ∨ (exponent ≠ -1#_ ∧ (exponent ≠ 0#_ ∨ mantissa ≠ 0#_))) :
    kind (unpack format (packComponents format sign exponent mantissa)) = .nonzero := by
  rw [kind_unpack, unpackExponent_packComponents, unpackMantissa_packComponents]
  rcases bits with ⟨rfl, rfl⟩ | ⟨inner, nonzero⟩
  · rw [if_pos rfl, if_pos rfl]
  · rw [if_neg inner]
    split
    · next least => rw [if_neg (nonzero.resolve_left (· least))]
    · rfl

theorem ofNat_exponent {biased : Nat} (positive : 0 < biased) (small : biased + 1 < 2048) :
    BitVec.ofNat 11 biased ≠ -1#11 ∧ BitVec.ofNat 11 biased ≠ 0#11 := by
  have kept : (BitVec.ofNat 11 biased).toNat = biased := Nat.mod_eq_of_lt (by omega)
  constructor
  · intro same
    have largest : biased = 2047 := kept.symm.trans (congrArg BitVec.toNat same)
    omega
  · intro same
    have least : biased = 0 := kept.symm.trans (congrArg BitVec.toNat same)
    omega

theorem kind_pack_finite {mantissa : Nat} {exponent : Int} (sign : Sign)
    (fits : Fits .binary64 mantissa exponent) :
    kind (Float.Model.pack (.finite sign mantissa exponent fits.positive)).unpack = .nonzero := by
  obtain ⟨positive, short, least⟩ := fits
  have bits : Format.binary64.mantissaBits = 53 := rfl
  have bound : Format.binary64.minExponent = -1074 := rfl
  change kind (unpack Format.binary64 (UnpackedFloat.pack Format.binary64 _)) = .nonzero
  delta UnpackedFloat.pack
  dsimp only
  split
  · exact kind_packComponents sign (.inl ⟨rfl, rfl⟩)
  · next inner =>
    split
    · have bias : Format.binary64.exponentBias = 1023 := rfl
      apply kind_packComponents
      obtain ⟨largest, least⟩ := ofNat_exponent (by omega) (Nat.lt_of_not_le inner)
      exact .inr ⟨largest, .inl least⟩
    · next fewer =>
      have small : mantissa < 2 ^ 52 := (Nat.log2_lt positive.ne').mp (by omega)
      apply kind_packComponents
      refine .inr ⟨by decide, .inr fun same => ?_⟩
      have kept : (BitVec.ofNat 52 mantissa).toNat = mantissa := Nat.mod_eq_of_lt small
      have none : mantissa = 0 := kept.symm.trans (congrArg BitVec.toNat same)
      omega

theorem fits_of_unpack {format : Format} {bits : BitVec format.numBits} {sign : Sign} {mantissa : Nat}
    {exponent : Int} {positive : 0 < mantissa}
    (unpacked : unpack format bits = .finite sign mantissa exponent positive) :
    Fits format mantissa exponent := by
  have half : 0 < 2 ^ (format.exponentBits - 1) := Nat.two_pow_pos _
  have whole : format.mantissaBits = 1 + format.mantissaBitsWithoutImplicit := rfl
  have bias : (format.exponentBias : Int) = 2 ^ (format.exponentBits - 1) - 1 := by
    rw [Format.exponentBias, Nat.cast_sub half]
    norm_cast
  have bound : format.minExponent = 1 - (format.exponentBias + format.mantissaBitsWithoutImplicit : Int) := by
    rw [bias, Format.minExponent, whole]
    push_cast
    ring
  unfold UnpackedFloat.unpack at unpacked
  dsimp only at unpacked
  by_cases largest : unpackExponent bits = -1#_
  · rw [if_pos largest] at unpacked
    by_cases infinite : unpackMantissa bits = 0#_
    · rw [if_pos infinite] at unpacked
      cases unpacked
    · rw [if_neg infinite] at unpacked
      cases unpacked
  rw [if_neg largest] at unpacked
  by_cases least : unpackExponent bits = 0#_
  · rw [if_pos least] at unpacked
    by_cases zero : unpackMantissa bits = 0#_
    · rw [dif_pos zero] at unpacked
      cases unpacked
    · rw [dif_neg zero] at unpacked
      cases unpacked
      refine ⟨positive, ?_, by omega⟩
      have fewer : (unpackMantissa bits).toNat.log2 < format.mantissaBitsWithoutImplicit :=
        (Nat.log2_lt positive.ne').mpr (BitVec.isLt _)
      omega
  · rw [if_neg least] at unpacked
    cases unpacked
    refine ⟨positive, ?_, ?_⟩
    · exact (Nat.log2_lt positive.ne').mpr (BitVec.isLt _)
    · have raised : (unpackExponent bits).toNat ≠ 0 := fun none => least (BitVec.eq_of_toNat_eq none)
      omega

def Packable : UnpackedFloat → Prop
  | .finite _ mantissa exponent _ => Fits .binary64 mantissa exponent
  | _ => True

theorem kind_pack {x : UnpackedFloat} (packable : Packable x) : kind (Float.Model.pack x).unpack = kind x := by
  cases x with
  | notANumber => rfl
  | zero sign => cases sign <;> rfl
  | infinity sign => exact kind_packComponents sign (.inl ⟨rfl, rfl⟩)
  | finite sign mantissa exponent positive =>
    exact kind_pack_finite sign packable

theorem kind_round {mantissa : Nat} {exponent : Int} (sign : Sign) (positive : 0 < mantissa)
    (large : -1074 ≤ mantissa.log2 + exponent) :
    kind (Float.Model.pack (UnpackedFloat.round .binary64 sign mantissa exponent)).unpack = .nonzero := by
  obtain ⟨_, _, fits, rounded⟩ := exists_round .binary64 sign positive large
  rw [rounded]
  exact kind_pack fits

/-! ### Conversions -/

theorem kind_widen (x : Float32) : kind (widen x).toModel.unpack = kind x.toModel.unpack := by
  unfold widen
  cases unpacked : x.toModel.unpack with
  | finite sign mantissa exponent positive =>
    have fits := fits_of_unpack unpacked
    have least : Format.binary32.minExponent = -149 := rfl
    have large := fits.least
    exact kind_round sign positive (by omega)
  | notANumber => exact kind_pack trivial
  | zero sign => exact kind_pack trivial
  | infinity sign => exact kind_pack trivial

theorem kind_neg (x : Float) : kind (-x).toModel.unpack = kind x.toModel.unpack := by
  change kind (Float.Model.pack x.toModel.unpack.neg).unpack = _
  cases unpacked : x.toModel.unpack with
  | finite sign mantissa exponent positive => exact kind_pack (fits_of_unpack unpacked)
  | notANumber => exact kind_pack trivial
  | zero sign => exact kind_pack trivial
  | infinity sign => exact kind_pack trivial

theorem kind_mul {mantissa : Nat} {exponent : Int} (sign sign' : Sign) (positive : 0 < mantissa) (shift : Nat)
    (exponent' : Int) (positive' : 0 < 1 <<< shift)
    (large : -1074 ≤ mantissa.log2 + shift + (exponent + exponent')) :
    kind (Float.Model.pack (mul .binary64 (.finite sign mantissa exponent positive)
      (.finite sign' (1 <<< shift) exponent' positive'))).unpack = .nonzero := by
  have scaled : mantissa * 1 <<< shift = mantissa <<< shift := by
    rw [Nat.shiftLeft_eq, Nat.shiftLeft_eq, Nat.one_mul]
  have least : Format.binary64.minExponent = -1074 := rfl
  have large' : Format.binary64.minExponent ≤ (mantissa * 1 <<< shift).log2 + (exponent + exponent') := by
    rw [scaled, log2_shiftLeft positive, least]
    omega
  obtain ⟨_, _, fits, rounded⟩ :=
    exists_roundWithAccuracy .binary64 (sign * sign') .exact (Nat.mul_pos positive positive') large'
  change kind (Float.Model.pack (roundWithAccuracy .binary64 _ _ _ .exact)).unpack = _
  rw [rounded]
  exact kind_pack fits

theorem kind_toFloat {n : UInt64} (positive : 0 < n.toNat) : kind n.toFloat.toModel.unpack = .nonzero := by
  have compared : compare (n.toNat : Int) 0 = .gt := Int.compare_eq_gt.mpr (by omega)
  change kind (Float.Model.pack (UnpackedFloat.normalize .binary64 n.toNat 0 .positive)).unpack = _
  unfold UnpackedFloat.normalize
  rw [compared]
  exact kind_round .positive positive (by omega)

theorem unpack_one :
    (Float.ofBits 0x3FF0000000000000).toModel.unpack = .finite .positive (1 <<< 52) (-52) (by decide) := rfl

theorem kind_mul_one (x : Float) :
    kind (x * Float.ofBits 0x3FF0000000000000).toModel.unpack = kind x.toModel.unpack := by
  change kind (Float.Model.pack (mul .binary64 x.toModel.unpack
    (Float.ofBits 0x3FF0000000000000).toModel.unpack)).unpack = _
  rw [unpack_one]
  cases unpacked : x.toModel.unpack with
  | finite sign mantissa exponent positive =>
    have least : -1074 ≤ exponent := (fits_of_unpack unpacked).least
    exact kind_mul sign .positive positive 52 (-52) (by decide) (by omega)
  | notANumber => exact kind_pack trivial
  | zero sign => exact kind_pack trivial
  | infinity sign => exact kind_pack trivial

theorem kind_ofNat {n : Nat} (positive : 0 < n) : kind (Float.ofNat n).toModel.unpack = .nonzero := by
  change kind (Float.ofScientific n false 0).toModel.unpack = _
  unfold Float.ofScientific
  -- a small number is converted and multiplied by one, another is rounded once
  split
  · next small =>
    have kept : n.toUInt64.toNat = n := by
      have : n < 2 ^ 53 := small.1
      rw [UInt64.toNat_ofNat']
      exact Nat.mod_eq_of_lt (by omega)
    rw [if_neg (by decide)]
    refine (kind_mul_one _).trans (kind_toFloat (by omega))
  · rw [if_neg (by decide)]
    change kind (Float.Model.pack (UnpackedFloat.ofScientific .binary64 n 0)).unpack = _
    have low : ¬ (0 : Int) > 2 ^ Format.binary64.exponentBits := by decide
    have high : ¬ (0 : Int) < -(2 ^ Format.binary64.exponentBits + n.log2) := by omega
    rw [UnpackedFloat.ofScientific, dif_neg positive.ne', if_neg low, if_neg high, if_pos (Int.le_refl 0)]
    have filled : 0 < n <<< 53 := by simpa [Nat.shiftLeft_eq] using positive
    have bits : Format.binary64.mantissaBits = 53 := rfl
    have large : -1074 ≤ (n <<< 53).log2 + (0 : Nat) + (-(Format.binary64.mantissaBits : Int) + 0) := by
      rw [log2_shiftLeft positive]
      omega
    exact kind_mul .positive .positive filled 0 0 (by decide) large

theorem kind_ofInt (n : Int) :
    kind (Float.ofInt n).toModel.unpack = if n = 0 then .zero else .nonzero := by
  cases n with
  | ofNat n =>
    rcases Nat.eq_zero_or_pos n with rfl | positive
    · rfl
    · rw [if_neg (by simpa using positive.ne')]
      exact kind_ofNat positive
  | negSucc n =>
    rw [if_neg (by simp)]
    exact (kind_neg _).trans (kind_ofNat n.succ_pos)

end BlockTemplates.Decimal
