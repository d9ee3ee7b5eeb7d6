import BlockTemplates.Proofs.Decimal.Rounding
import BlockTemplates.Proofs.Expr.Calling
import Mathlib

/-! Conditions in the program and in expressions. A condition and the value that is made of it hold
alike, except that a float which is no number holds as a value only. What equality of floats comes to
is known to the library as a whole, not to a part of it. Main statement: `agree_exactly`. -/

namespace BlockTemplates.Expr

open Decimal (FloatKind kind)

/-! ### Floats -/

theorem beq_zero (x : Float.Model.UnpackedFloat) : x.beq (.zero .positive) = decide (kind x = .zero) := by
  cases x with
  | notANumber => rfl
  | zero sign => rfl
  | infinity sign => cases sign <;> rfl
  | finite sign => cases sign <;> rfl

theorem isNaN_unpacked (x : Float.Model.UnpackedFloat) : x.isNaN = decide (kind x = .nan) := by
  cases x <;> rfl

theorem beq_zero_float (x : Float) : (x == 0.0) = decide (kind x.toModel.unpack = .zero) :=
  beq_zero x.toModel.unpack

theorem beq_zero_float32 (x : Float32) : (x == 0.0) = decide (kind x.toModel.unpack = .zero) :=
  beq_zero x.toModel.unpack

theorem isNaN_float (x : Float) : x.isNaN = decide (kind x.toModel.unpack = .nan) :=
  isNaN_unpacked x.toModel.unpack

theorem isNaN_float32 (x : Float32) : x.isNaN = decide (kind x.toModel.unpack = .nan) :=
  isNaN_unpacked x.toModel.unpack

theorem ofFloat_eq (x : Float) : Truth.ofFloat x = decide (kind x.toModel.unpack = .nonzero) := by
  unfold Truth.ofFloat
  rw [beq_zero_float, isNaN_float]
  cases kind x.toModel.unpack <;> rfl

theorem ofFloat32_eq (x : Float32) : Truth.ofFloat32 x = decide (kind x.toModel.unpack = .nonzero) := by
  unfold Truth.ofFloat32
  rw [beq_zero_float32, isNaN_float32]
  cases kind x.toModel.unpack <;> rfl

theorem ofFloat_ofInt (n : Int) : Truth.ofFloat (Float.ofInt n) = decide (n ≠ 0) := by
  rw [ofFloat_eq, Decimal.kind_ofInt]
  split <;> simp [*]

/-! ### Branches -/

def otherwise (no : Option Value) : Value := (no.filter fun value => !value.isAbsent).getD (.text "")

theorem perform_renderIf (environment : Environment) (sink : Nat) (condition yes : Value) (no : Option Value) :
    perform environment sink (.function (.builtin .renderIf)) (condition :: yes :: no.toList) =
      .ok (renderIf condition yes (otherwise no), []) := by
  rw [perform_quiet (by decide) (by decide)]
  cases no with
  | none => rfl
  | some value => cases value <;> rfl

/-- A condition of the program and a value agree: the value holds as the condition does, and
`renderIf` in an expression takes the branch that `renderIf` takes in the program. -/
structure Agree {α : Type} [Truthy α] (condition : α) (value : Value) : Prop where
  truth : Truthy.holds value = Truthy.holds condition
  branch : ∀ (environment : Environment) (sink : Nat) (yes : Value) (no : Option Value),
    perform environment sink (.function (.builtin .renderIf)) (value :: yes :: no.toList) =
      .ok (renderIf condition yes (otherwise no), [])

theorem agree_iff {α : Type} [Truthy α] {condition : α} {value : Value} :
    Agree condition value ↔ Truthy.holds value = Truthy.holds condition := by
  constructor
  · exact Agree.truth
  · intro same
    refine ⟨same, fun environment sink yes no => ?_⟩
    rw [perform_renderIf, renderIf, renderIf, same]

theorem agree_float (x : Float) : Agree x (.float x) ↔ x.isNaN = false := by
  rw [agree_iff, isNaN_float]
  change Value.isTrue (.float x) = Truth.ofFloat x ↔ _
  rw [ofFloat_eq, Value.isTrue, beq_zero_float]
  cases kind x.toModel.unpack <;> simp

theorem agree_float32 (x : Float32) : Agree x (.float (Decimal.widen x)) ↔ x.isNaN = false := by
  rw [agree_iff, isNaN_float32]
  change Value.isTrue (.float (Decimal.widen x)) = Truth.ofFloat32 x ↔ _
  rw [ofFloat32_eq, Value.isTrue, beq_zero_float, Decimal.kind_widen]
  cases kind x.toModel.unpack <;> simp

theorem agree_int (n : Int) : Agree n (.int n) := agree_iff.mpr rfl

theorem agree_nat (n : Nat) : Agree n (.int n) := by
  rw [agree_iff]
  change decide ((n : Int) ≠ 0) = decide (n ≠ 0)
  simp

theorem agree_data (data : Data) : Agree data (.ofData data) ↔ ∀ x, data = .float x → x.isNaN = false := by
  cases data with
  | int n =>
    refine iff_of_true (agree_iff.mpr ?_) (by rintro _ ⟨⟩)
    exact (ofFloat_ofInt n).symm
  | float x =>
    refine Iff.trans ?_ ((agree_float x).trans ?_)
    · rw [agree_iff, agree_iff]
      rfl
    · exact ⟨fun number _ same => Data.float.inj same ▸ number, fun all => all x rfl⟩
  | null => exact iff_of_true (agree_iff.mpr rfl) (by rintro _ ⟨⟩)
  | bool b => exact iff_of_true (agree_iff.mpr rfl) (by rintro _ ⟨⟩)
  | string s => exact iff_of_true (agree_iff.mpr rfl) (by rintro _ ⟨⟩)
  | list items => exact iff_of_true (agree_iff.mpr rfl) (by rintro _ ⟨⟩)
  | table entries => exact iff_of_true (agree_iff.mpr rfl) (by rintro _ ⟨⟩)

theorem agree_some {α : Type} [Truthy α] {condition : α} {value : Value} :
    Agree (some condition) value ↔ Agree condition value := by
  rw [agree_iff, agree_iff]
  rfl

theorem agree_none {α : Type} [Truthy α] :
    Agree (none : Option α) .none ∧ Agree (none : Option α) .undefined :=
  ⟨agree_iff.mpr rfl, agree_iff.mpr rfl⟩

theorem agree_list {α : Type} (items : List α) (values : List Value) : Agree items (.list values) :=
  agree_iff.mpr rfl

/-! ### What does not hold -/

/-- The values that do not hold. -/
inductive Value.Falsy : Value → Prop where
  | undefined : Falsy .undefined
  | none : Falsy .none
  | bool : Falsy (.bool false)
  | int : Falsy (.int 0)
  | float {x : Float} (zero : x = 0.0 ∨ x = -0.0) : Falsy (.float x)
  | string (safe : Bool) : Falsy (.string safe "")
  | bytes : Falsy (.bytes [])
  /-- Nothing to walk through, when that is known beforehand. -/
  | sequence : Falsy (.sequence true [])

/-- The data that does not hold. -/
inductive FalsyData : Data → Prop where
  | null : FalsyData .null
  | bool : FalsyData (.bool false)
  | int : FalsyData (.int 0)
  | float {x : Float} (zero : x = 0.0 ∨ x = -0.0) : FalsyData (.float x)
  | nan {x : Float} (none : x.isNaN = true) : FalsyData (.float x)
  | string : FalsyData (.string "")

theorem beq_zero_iff {x : Float} : (x == 0.0) = true ↔ x = 0.0 ∨ x = -0.0 := by
  have number : (0.0 : Float) ≠ Float.nan := by decide
  have zero : (0.0 : Float) = 0 := rfl
  rw [Float.beq_iff_ne_nan_and_eq, zero]
  constructor
  · rintro ⟨-, -, same | ⟨same, -⟩ | ⟨same, -⟩⟩
    · exact .inl same
    · exact .inl same
    · exact .inr same
  · rintro (rfl | rfl)
    · exact ⟨number, number, .inl rfl⟩
    · exact ⟨by decide, number, .inr (.inr ⟨rfl, rfl⟩)⟩

theorem holds_value_eq_false_iff {value : Value} : Truthy.holds value = false ↔ value.Falsy := by
  constructor
  · intro fails
    cases value with
    | undefined => exact .undefined
    | none => exact .none
    | bool b =>
      obtain rfl : b = false := fails
      exact .bool
    | int n =>
      obtain rfl : n = 0 := by simpa [Truthy.holds, Value.isTruthy, Value.isTrue] using fails
      exact .int
    | float x => exact .float (beq_zero_iff.mp (by simpa [Truthy.holds, Value.isTruthy, Value.isTrue] using fails))
    | string safe s =>
      obtain rfl : s = "" := by simpa [Truthy.holds, Value.isTruthy, Value.isTrue] using fails
      exact .string safe
    | bytes codes =>
      obtain rfl : codes = [] := by simpa [Truthy.holds, Value.isTruthy, Value.isTrue] using fails
      exact .bytes
    | sequence sized items =>
      obtain ⟨rfl, rfl⟩ : sized = true ∧ items = [] := by
        simpa [Truthy.holds, Value.isTruthy, Value.isTrue] using fails
      exact .sequence
    | list items => cases fails
    | table named entries => cases fails
    | function f => cases fails
  · rintro (_ | _ | _ | _ | zero | _ | _ | _)
    case float =>
      change (!(_ == 0.0)) = false
      rw [beq_zero_iff.mpr zero]
      rfl
    all_goals rfl

theorem ofFloat_eq_false_iff {x : Float} : Truth.ofFloat x = false ↔ (x = 0.0 ∨ x = -0.0) ∨ x.isNaN = true := by
  rw [← beq_zero_iff]
  unfold Truth.ofFloat
  cases x == 0.0 <;> cases x.isNaN <;> simp

theorem holds_data_eq_false_iff {data : Data} : Truthy.holds data = false ↔ FalsyData data := by
  constructor
  · intro fails
    cases data with
    | null => exact .null
    | bool b =>
      obtain rfl : b = false := fails
      exact .bool
    | int n =>
      obtain rfl : n = 0 := by simpa using (ofFloat_ofInt n).symm.trans fails
      exact .int
    | float x =>
      rcases ofFloat_eq_false_iff.mp fails with zero | none
      · exact .float zero
      · exact .nan none
    | string s =>
      obtain rfl : s = "" := by simpa [Truthy.holds, Truth.ofData] using fails
      exact .string
    | list items => cases fails
    | table entries => cases fails
  · rintro (_ | _ | _ | zero | none | _)
    case int => exact ofFloat_ofInt 0
    case float => exact ofFloat_eq_false_iff.mpr (.inl zero)
    case nan => exact ofFloat_eq_false_iff.mpr (.inr none)
    all_goals rfl

/-! ### All conditions -/

/-- All conditions agree with the values made of them, but for the floats that are no numbers; and
nothing does not hold but what is absent, false, zero, empty text or, as data, no number. -/
theorem agree_exactly {α β : Type} [Truthy α] (data : Data) (b safe : Bool) (s : String) (n : Int) (count : Nat)
    (x : Float) (short : Float32) (condition : α) (items : List β) (value : Value) (values : List Value) :
    (Agree data (.ofData data) ↔ ∀ x, data = .float x → x.isNaN = false) ∧
      Agree b (.bool b) ∧
      Agree s (.string safe s) ∧
      Agree n (.int n) ∧
      Agree count (.int count) ∧
      (Agree x (.float x) ↔ x.isNaN = false) ∧
      (Agree short (.float (Decimal.widen short)) ↔ short.isNaN = false) ∧
      (Agree (some condition) value ↔ Agree condition value) ∧
      Agree (none : Option α) .none ∧
      Agree (none : Option α) .undefined ∧
      Agree items (.list values) ∧
      (Truthy.holds value = false ↔ value.Falsy) ∧
      (Truthy.holds data = false ↔ FalsyData data) :=
  ⟨agree_data data, agree_iff.mpr rfl, agree_iff.mpr rfl, agree_int n, agree_nat count, agree_float x,
    agree_float32 short, agree_some, agree_none.1, agree_none.2, agree_list items values, holds_value_eq_false_iff,
    holds_data_eq_false_iff⟩

/-- A float that is no number does not hold in the program, but its value does. -/
theorem not_agree_nan :
    Truthy.holds (0.0 / 0.0 : Float) = false ∧ Truthy.holds (Value.float (0.0 / 0.0)) = true ∧
      ¬ Agree (0.0 / 0.0 : Float) (.float (0.0 / 0.0)) ∧
      renderIf (0.0 / 0.0 : Float) "yes" "no" = "no" ∧
      ∀ (environment : Environment) (sink : Nat),
        perform environment sink (.function (.builtin .renderIf)) [.float (0.0 / 0.0), .text "yes", .text "no"] =
          .ok (.text "yes", []) := by
  have none : (0.0 / 0.0 : Float).isNaN = true := by decide
  refine ⟨by decide, by decide, ?_, by decide, ?_⟩
  · rw [agree_float, none]
    decide
  · intro environment sink
    exact perform_renderIf environment sink _ _ (some (.text "no"))

end BlockTemplates.Expr
