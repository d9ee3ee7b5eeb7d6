import BlockTemplates.Decimal.Power

/-! The numbers that a binary64 float stands for. A finite float is a natural number times a power
of two; `decode` reads both off its bits. -/

namespace BlockTemplates.Decimal

/-- What a float stands for. A finite one is `mantissa * 2 ^ exponent` with its sign. -/
inductive Binary64 where
  | nan
  | infinite (negative : Bool)
  | finite (negative : Bool) (mantissa : Nat) (exponent : Int)
  deriving Repr, DecidableEq, Inhabited

def decode (x : Float) : Binary64 :=
  let bits := x.toBits.toNat
  let negative := bits / twoTo 63 == 1
  let biased : Nat := bits / twoTo 52 % twoTo 11
  let fraction := bits % twoTo 52
  if biased = 2047 then
    if fraction = 0 then .infinite negative else .nan
  else if biased = 0 then .finite negative fraction (-1074)
  else .finite negative (fraction + twoTo 52) ((biased : Int) - 1075)

open Float.Model (UnpackedFloat Format) in
/-- The float of double precision that has the value of one of single precision. -/
def widen (x : Float32) : Float :=
  .ofModel (.pack (match x.toModel.unpack with
    | .finite negative mantissa exponent _ => .round Format.binary64 negative mantissa exponent
    | special => special))

def isWhole (mantissa : Nat) (exponent : Int) : Bool :=
  0 ≤ exponent || mantissa % twoTo exponent.natAbs == 0

def wholePart (mantissa : Nat) (exponent : Int) : Nat :=
  if 0 ≤ exponent then mantissa * twoTo exponent.natAbs else mantissa / twoTo exponent.natAbs

end BlockTemplates.Decimal
