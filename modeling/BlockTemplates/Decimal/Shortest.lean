import BlockTemplates.Decimal.Binary64
import BlockTemplates.Decimal.Power

/-! The fewest decimal digits that read back as a given binary64 float. The reals that round to
the float form an interval; the coarsest decimal grid with a point in it gives the digits, and of
two points on that grid the nearer one is taken, the larger one when both are equally near. -/

namespace BlockTemplates.Decimal

structure Digits where
  digits : Nat
  exponent : Int
  deriving Repr, DecidableEq, Inhabited

def power (base : Nat) (exponent : Int) : Nat × Nat :=
  if 0 ≤ exponent then (Nat.pow base exponent.natAbs, 1) else (1, Nat.pow base exponent.natAbs)

/-- The grid of multiples of `10 ^ exponent` compared with multiples of `2 ^ shift`: a point `c`
of the grid is `c * gridUnit` and a quantity `k` of the other is `k * unit`, in one common unit. -/
structure Grid where
  gridUnit : Nat
  unit : Nat

def Grid.of (exponent shift : Int) : Grid :=
  let (ten, tenth) := power 10 exponent
  let (two, half) := power 2 shift
  ⟨ten * half, two * tenth⟩

/-- The interval of reals that round to a float, in quarters of its last place: its ends and
whether the ends belong to it. Below a power of two the next float is half as far away. -/
structure Interval where
  low : Nat
  value : Nat
  high : Nat
  closed : Bool

def Interval.of (mantissa : Nat) (exponent : Int) : Interval where
  low := if mantissa = twoTo 52 ∧ exponent ≠ -1074 then 4 * mantissa - 1 else 4 * mantissa - 2
  value := 4 * mantissa
  high := 4 * mantissa + 2
  closed := mantissa % 2 == 0

def Interval.contains (interval : Interval) (grid : Grid) (c : Nat) : Bool :=
  if interval.closed then
    interval.low * grid.unit ≤ c * grid.gridUnit && c * grid.gridUnit ≤ interval.high * grid.unit
  else
    interval.low * grid.unit < c * grid.gridUnit && c * grid.gridUnit < interval.high * grid.unit

/-- The point of the grid `10 ^ exponent` that rounds to the float, if there is one: one of the
two neighbours of the value, the nearer one when both do. -/
def nearestOn (mantissa : Nat) (exponent gridExponent : Int) : Option Digits :=
  let interval := Interval.of mantissa exponent
  let grid := Grid.of gridExponent (exponent - 2)
  let below := interval.value * grid.unit / grid.gridUnit
  let above := below + 1
  let takes (c : Nat) : Bool := 0 < c && interval.contains grid c
  match takes below, takes above with
  | false, false => none
  | true, false => some ⟨below, gridExponent⟩
  | false, true => some ⟨above, gridExponent⟩
  | true, true =>
    if 2 * interval.value * grid.unit < (below + above) * grid.gridUnit then some ⟨below, gridExponent⟩
    else some ⟨above, gridExponent⟩

def exactDigits (mantissa : Nat) (exponent : Int) : Digits :=
  if 0 ≤ exponent then ⟨mantissa * twoTo exponent.natAbs, 0⟩
  else ⟨mantissa * Nat.pow 5 exponent.natAbs, exponent⟩

/-- The digits without trailing zeros, of which there are fewer than the digits say as a number. -/
def Digits.strip : Nat → Digits → Digits
  | 0, d => d
  | n + 1, d => if d.digits ≠ 0 ∧ d.digits % 10 = 0 then strip n ⟨d.digits / 10, d.exponent + 1⟩ else d

/-- The fewest digits that read back as the float `mantissa * 2 ^ exponent`. The first grid tried
lies above the value, since `30103 / 100000` exceeds the logarithm of two. -/
def shortest (mantissa : Nat) (exponent : Int) : Digits :=
  if mantissa = 0 then ⟨0, 0⟩
  else
    let top : Int := (mantissa.log2 + exponent + 1) * 30103 / 100000 + 1
    let found := (List.range 24).findSome? (fun step : Nat => nearestOn mantissa exponent (top - step))
    let all := found.getD (exactDigits mantissa exponent)
    all.strip all.digits

end BlockTemplates.Decimal
