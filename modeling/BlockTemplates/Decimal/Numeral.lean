import BlockTemplates.Decimal.Notation

/-! Decimal numerals and the floats nearest to them. A numeral is digits with a power of ten; the
float it reads as is the nearest one, infinite from `1.8e308` on. -/

namespace BlockTemplates.Decimal

/-- A decimal number as written: `digits * 10 ^ exponent` with a sign, or one of the words for
infinity and for no number. -/
inductive Numeral where
  | nan
  | infinite (negative : Bool)
  | finite (negative : Bool) (digits : Nat) (exponent : Int)
  deriving Repr, DecidableEq, Inhabited

def foldDigits (start : Nat) (digits : List Char) : Nat :=
  digits.foldl (fun n c => 10 * n + (c.toNat - 48)) start

def natOfDigits? (digits : List Char) : Option Nat :=
  if digits.isEmpty || !digits.all Char.isDigit then none else some (foldDigits 0 digits)

def takeSign : List Char → Bool × List Char
  | '-' :: rest => (true, rest)
  | '+' :: rest => (false, rest)
  | rest => (false, rest)

/-- The exponent that `e`, an optional sign and digits spell; zero for no text at all. -/
def exponentOf? : List Char → Option Int
  | [] => some 0
  | mark :: rest =>
    if mark = 'e' ∨ mark = 'E' then
      let (negative, digits) := takeSign rest
      (natOfDigits? digits).map (fun n => if negative then -(n : Int) else n)
    else none

/-- The numeral that an unsigned text spells: digits, a point and digits, of which one side may
be missing, then an optional exponent; or a word for infinity or for no number. -/
def unsignedOf? (negative : Bool) (text : List Char) : Option Numeral :=
  let word := String.ofList (text.map Char.toLower)
  if word = "inf" ∨ word = "infinity" then some (.infinite negative)
  else if word = "nan" then some .nan
  else
    let whole := text.takeWhile Char.isDigit
    let rest := text.dropWhile Char.isDigit
    let (fraction, tail) := match rest with
      | '.' :: more => (more.takeWhile Char.isDigit, more.dropWhile Char.isDigit)
      | _ => ([], rest)
    if whole.isEmpty && fraction.isEmpty then none
    else
      (exponentOf? tail).map (fun exponent =>
        .finite negative (foldDigits (foldDigits 0 whole) fraction) (exponent - fraction.length))

def numeralOf? (text : List Char) : Option Numeral :=
  let (negative, rest) := takeSign text
  unsignedOf? negative rest

/-- The float nearest to `digits * 10 ^ exponent`. Beyond the range of floats the exponent is not
carried out: the result is infinite or zero. -/
def nearest (digits : Nat) (exponent : Int) : Float :=
  let length : Int := (Nat.toDigits 10 digits).length
  if digits = 0 ∨ exponent + length < -400 then 0.0
  else if 400 < exponent + length then Float.ofScientific 1 false 400
  else Float.ofScientific digits (exponent < 0) exponent.natAbs

def Numeral.toFloat : Numeral → Float
  | .nan => Float.ofBits 0x7FF8000000000000
  | .infinite negative => if negative then Float.ofBits 0xFFF0000000000000 else Float.ofBits 0x7FF0000000000000
  | .finite negative digits exponent =>
    if negative then -(nearest digits exponent) else nearest digits exponent

def floatOf? (text : List Char) : Option Float := (numeralOf? text).map Numeral.toFloat

def Numeral.toFloat32 : Numeral → Float32
  | .nan => Float32.ofBits 0x7FC00000
  | .infinite negative => if negative then Float32.ofBits 0xFF800000 else Float32.ofBits 0x7F800000
  | .finite negative digits exponent =>
    let length : Int := (Nat.toDigits 10 digits).length
    let size : Float32 :=
      if digits = 0 ∨ exponent + length < -100 then 0.0
      else if 100 < exponent + length then Float32.ofScientific 1 false 100
      else Float32.ofScientific digits (exponent < 0) exponent.natAbs
    if negative then -size else size

/-- `size / 10 ^ exponent`, by divisions of which each divisor is a float. -/
def divideDown (size : Float) (exponent : Nat) : Float :=
  if exponent ≤ 308 then size / Float.ofScientific 1 false exponent
  else if size == 0.0 then size
  else divideDown (size / Float.ofScientific 1 false 308) (exponent - 308)
termination_by exponent

/-- `digits * 10 ^ exponent` computed in floats, by one multiplication or by divisions, so that
the result may miss the nearest float in its last place. There is none when it overflows. -/
def scaled? (digits : Nat) (exponent : Int) : Option Float :=
  let start := Float.ofNat digits
  if exponent < 0 then some (divideDown start exponent.natAbs)
  else if digits = 0 then some 0.0
  else if 308 < exponent then none
  else
    let size := start * Float.ofScientific 1 false exponent.natAbs
    if size.isInf then none else some size

end BlockTemplates.Decimal
