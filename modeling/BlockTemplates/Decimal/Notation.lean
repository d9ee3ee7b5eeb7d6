import BlockTemplates.Decimal.Shortest

/-! Decimal texts of numbers. A `Notation` fixes which magnitudes are written with an exponent and
whether a whole number keeps a fraction; the digits are always the fewest that read back. -/

namespace BlockTemplates.Decimal

def natText (n : Nat) : String := String.ofList (Nat.toDigits 10 n)

def intText (n : Int) : String := if n < 0 then "-" ++ natText n.natAbs else natText n.natAbs

structure Style where
  /-- The decimal exponents of the first digit that are written without an exponent. -/
  positional : Int → Bool
  /-- Whether a whole number written without an exponent ends in `.0`. -/
  keepsFraction : Bool

def plain : Style := ⟨fun _ => true, false⟩

def fractional : Style := ⟨fun _ => true, true⟩

def compact : Style := ⟨fun exponent => -5 < exponent && exponent < 16, true⟩

def positionalText (keepsFraction : Bool) (d : Digits) : String :=
  let digits := Nat.toDigits 10 d.digits
  if 0 ≤ d.exponent then
    String.ofList (digits ++ List.replicate d.exponent.natAbs '0') ++ (if keepsFraction then ".0" else "")
  else
    let places := d.exponent.natAbs
    let padded := List.replicate (places + 1 - digits.length) '0' ++ digits
    let whole := padded.length - places
    String.ofList (padded.take whole) ++ "." ++ String.ofList (padded.drop whole)

def scientificText (d : Digits) : String :=
  let digits := Nat.toDigits 10 d.digits
  let exponent := d.exponent + digits.length - 1
  let fraction := digits.drop 1
  String.ofList (digits.take 1) ++ (if fraction.isEmpty then "" else "." ++ String.ofList fraction)
    ++ "e" ++ intText exponent

def Style.write (style : Style) (x : Float) : String :=
  match decode x with
  | .nan => "NaN"
  | .infinite negative => if negative then "-inf" else "inf"
  | .finite negative mantissa exponent =>
    let digits := shortest mantissa exponent
    let first := digits.exponent + (Nat.toDigits 10 digits.digits).length - 1
    let text :=
      if digits.digits = 0 ∨ style.positional first then positionalText style.keepsFraction digits
      else scientificText digits
    if negative then "-" ++ text else text

end BlockTemplates.Decimal
