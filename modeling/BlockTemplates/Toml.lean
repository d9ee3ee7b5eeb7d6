import BlockTemplates.Data
import BlockTemplates.Decimal.Power
import BlockTemplates.Toml.Moment

/-! TOML values as written, and the data they stand for. -/

namespace BlockTemplates

/-- A TOML value. Integers and floats are kept in full, whatever their size; a table keeps its
entries in increasing key order. -/
inductive Toml where
  | string (s : String)
  | int (n : Int)
  | float (n : Decimal.Numeral)
  | bool (b : Bool)
  | moment (m : Toml.Moment)
  | array (items : List Toml)
  | table (entries : List (String × Toml))
  deriving Repr, BEq, Inhabited

namespace Toml

/-- Whether a float stands for what is written: digits never stand for infinity. -/
def isInRange (n : Decimal.Numeral) : Bool :=
  match n with
  | .finite _ _ _ => n.toFloat.isFinite
  | _ => true

mutual

def fits (lowest highest : Int) : Toml → Bool
  | .int n => lowest ≤ n && n ≤ highest
  | .float n => isInRange n
  | .array items => itemsFit lowest highest items
  | .table entries => entriesFit lowest highest entries
  | _ => true

def itemsFit (lowest highest : Int) : List Toml → Bool
  | [] => true
  | item :: rest => fits lowest highest item && itemsFit lowest highest rest

def entriesFit (lowest highest : Int) : List (String × Toml) → Bool
  | [] => true
  | (_, value) :: rest => fits lowest highest value && entriesFit lowest highest rest

end

def isReadable (value : Toml) : Bool := value.fits (-Decimal.twoTo 63) (Decimal.twoTo 63 - 1)

def floatData (n : Decimal.Numeral) : Except String Data :=
  match n with
  | .nan => .error "NaN"
  | .infinite negative => .error (if negative then "-inf" else "inf")
  | .finite _ _ _ => .ok (.float n.toFloat)

mutual

/-- The data that a value stands for, or the text of the first float that is no number. -/
def toData : Toml → Except String Data
  | .string s => .ok (.string s)
  | .int n => .ok (.int n)
  | .float n => floatData n
  | .bool b => .ok (.bool b)
  | .moment m => .ok (.string m.text)
  | .array items => (itemsToData items).map .list
  | .table entries => (entriesToData entries).map .table

def itemsToData : List Toml → Except String (List Data)
  | [] => .ok []
  | item :: rest => do return (← toData item) :: (← itemsToData rest)

def entriesToData : List (String × Toml) → Except String (List (String × Data))
  | [] => .ok []
  | (key, value) :: rest => do return (key, ← toData value) :: (← entriesToData rest)

end

end Toml

end BlockTemplates
