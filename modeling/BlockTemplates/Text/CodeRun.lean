/-! Sets of code points given as runs of equal steps. -/

namespace BlockTemplates.Text

/-- The code points `first`, `first + step`, and so on up to `last`. -/
structure CodeRun where
  first : Nat
  last : Nat
  step : Nat
  deriving Repr, DecidableEq, Inhabited

def CodeRun.contains (run : CodeRun) (code : Nat) : Bool :=
  run.first ≤ code && code ≤ run.last && (code - run.first) % run.step == 0

/-- A run of code points that all map to the code point at the same distance. -/
structure CodeShift where
  run : CodeRun
  distance : Int
  deriving Repr, DecidableEq, Inhabited

def inRuns (runs : List CodeRun) (c : Char) : Bool := runs.any (·.contains c.toNat)

def shifted? (shifts : List CodeShift) (c : Char) : Option Char :=
  (shifts.find? (·.run.contains c.toNat)).map (fun shift => Char.ofNat ((c.toNat : Int) + shift.distance).toNat)

end BlockTemplates.Text
