import BlockTemplates.Decimal.Binary64
import BlockTemplates.Decimal.Power

/-! Division of floats with remainder. The remainder is exact and has the sign of the dividend;
the Euclidean quotient is the whole number for which the remainder is not negative. -/

namespace BlockTemplates.Decimal

def notANumber : Float := Float.ofBits 0x7FF8000000000000

/-- The exact remainder of a division, with the sign of the dividend. -/
def remainder (x y : Float) : Float :=
  match decode x, decode y with
  | .finite negative m e, .finite _ n f =>
    if n = 0 then notANumber
    else
      let least := min e f
      let rest := m * twoTo (e - least).natAbs % (n * twoTo (f - least).natAbs)
      let size := (Float.ofNat rest).scaleB least
      if negative then -size else size
  | .finite _ _ _, .infinite _ => x
  | _, _ => notANumber

def truncate (x : Float) : Float := if x < 0.0 then x.ceil else x.floor

def quotient (x y : Float) : Float :=
  let q := truncate (x / y)
  if remainder x y < 0.0 then (if 0.0 < y then q - 1.0 else q + 1.0) else q

end BlockTemplates.Decimal
