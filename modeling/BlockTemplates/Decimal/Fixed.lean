import BlockTemplates.Decimal.Binary64
import BlockTemplates.Decimal.Notation
import BlockTemplates.Decimal.Power

/-! Floats with a fixed number of places after the point. The value is rounded to the nearest
multiple of the last place, a half to the even neighbour. -/

namespace BlockTemplates.Decimal

/-- The whole number nearest to a quotient, a half going to the even neighbour. -/
def roundDiv (numerator denominator : Nat) : Nat :=
  let q := numerator / denominator
  let twice := 2 * (numerator % denominator)
  if denominator < twice ∨ (twice = denominator ∧ q % 2 = 1) then q + 1 else q

/-- The text of a natural number of units of the last place. -/
def placesText (places units : Nat) : String :=
  let digits := Nat.toDigits 10 units
  let padded := List.replicate (places + 1 - digits.length) '0' ++ digits
  let whole := padded.take (padded.length - places)
  if places = 0 then String.ofList whole
  else String.ofList whole ++ "." ++ String.ofList (padded.drop (padded.length - places))

def fixedText (places : Nat) (x : Float) : String :=
  match decode x with
  | .nan => "nan"
  | .infinite negative => if negative then "-inf" else "inf"
  | .finite negative mantissa exponent =>
    let units :=
      if 0 ≤ exponent then mantissa * twoTo exponent.natAbs * tenTo places
      else roundDiv (mantissa * tenTo places) (twoTo exponent.natAbs)
    (if negative then "-" else "") ++ placesText places units

end BlockTemplates.Decimal
