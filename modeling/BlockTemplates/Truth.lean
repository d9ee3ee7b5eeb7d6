import BlockTemplates.Data

/-! Conditions. False, zero, the empty string, what is no number and what is absent do not hold;
everything else does, and that includes empty lists and tables. -/

namespace BlockTemplates

class Truthy (α : Type) where
  holds : α → Bool

namespace Truth

def ofFloat (x : Float) : Bool := !(x == 0.0) && !x.isNaN

def ofFloat32 (x : Float32) : Bool := !(x == 0.0) && !x.isNaN

/-- Whether data is taken as true. Of an integer the float nearest to it is looked at. -/
def ofData : Data → Bool
  | .null => false
  | .bool b => b
  | .int n => ofFloat (Float.ofInt n)
  | .float x => ofFloat x
  | .string s => !s.isEmpty
  | .list _ => true
  | .table _ => true

end Truth

instance : Truthy Bool := ⟨id⟩

instance : Truthy String := ⟨fun s => !s.isEmpty⟩

instance : Truthy Int := ⟨fun n => n ≠ 0⟩

instance : Truthy Nat := ⟨fun n => n ≠ 0⟩

instance : Truthy Float := ⟨Truth.ofFloat⟩

instance : Truthy Float32 := ⟨Truth.ofFloat32⟩

instance {α : Type} [Truthy α] : Truthy (Option α) := ⟨fun a => a.any Truthy.holds⟩

instance {α : Type} : Truthy (List α) := ⟨fun _ => true⟩

instance : Truthy Data := ⟨Truth.ofData⟩

def renderIf {γ α : Type} [Truthy γ] (condition : γ) (yes no : α) : α :=
  if Truthy.holds condition then yes else no

def renderIfOrEmpty {γ : Type} [Truthy γ] (condition : γ) (text : String) : String :=
  renderIf condition text ""

end BlockTemplates
