import BlockTemplates.Decimal.Power
import BlockTemplates.Decimal.Remainder
import BlockTemplates.Expr.Display
import BlockTemplates.Expr.Error
import BlockTemplates.Expr.Order
import BlockTemplates.Text.Search

/-! The operators of expressions. Integers are computed exactly and fail when the result needs more
than 128 bits; as soon as one operand is a float both are. -/

namespace BlockTemplates.Expr

abbrev Answer (α : Type) := Except Error α

def invalid {α : Type} : Answer α := .error .invalidOperation

def checked (n : Int) : Answer Value := if fitsInt n then .ok (.int n) else invalid

def orInvalid {α : Type} : Option α → Answer α
  | some a => .ok a
  | none => invalid

namespace Value

def asWhole? : Value → Option Int
  | bool b => some (if b then 1 else 0)
  | int n => some n
  | float x =>
    match Decimal.decode x with
    | .finite _ mantissa exponent =>
      let n := wholeOf x
      if Decimal.isWhole mantissa exponent && -Decimal.twoTo 63 ≤ n && n < Decimal.twoTo 63 then some n else .none
    | _ => .none
  | _ => .none

def asCount? (value : Value) : Option Nat :=
  value.asWhole?.bind (fun n => if 0 ≤ n ∧ n < Decimal.twoTo 64 then some n.natAbs else .none)

/-- Whether the number of items that a walk meets is known beforehand. -/
def isSized : Value → Bool
  | sequence sized _ => sized
  | _ => true

def add (a b : Value) : Answer Value :=
  if a.isLinear && b.isLinear then .ok (.sequence (a.isSized && b.isSized) (a.items ++ b.items))
  else
    match pair? true a b with
    | some (.ints m n) => checked (m + n)
    | some (.floats x y) => .ok (.float (x + y))
    | some (.texts s t) => .ok (.text (s ++ t))
    | .none => invalid

def sub (a b : Value) : Answer Value :=
  match pair? true a b with
  | some (.ints m n) => checked (m - n)
  | some (.floats x y) => .ok (.float (x - y))
  | _ => invalid

def repeatText (s : String) (count : Nat) : String := String.join (List.replicate count s)

def mul (a b : Value) : Answer Value :=
  match a, b with
  | string _ s, b => (orInvalid b.asCount?).map (fun n => .text (repeatText s n))
  | a, string _ s => (orInvalid a.asCount?).map (fun n => .text (repeatText s n))
  | a, b =>
    if a.isLinear then repeatItems a b
    else if b.isLinear then repeatItems b a
    else
      match pair? true a b with
      | some (.ints m n) => checked (m * n)
      | some (.floats x y) => .ok (.float (x * y))
      | _ => invalid
where
  repeatItems (list count : Value) : Answer Value := do
    let n ← orInvalid count.asCount?
    if list.isSized then .ok (.sequence true (List.replicate n list.items).flatten) else invalid

def div (a b : Value) : Answer Value :=
  match a.asFloat? true, b.asFloat? true with
  | some x, some y => .ok (.float (x / y))
  | _, _ => invalid

def floorDiv (a b : Value) : Answer Value :=
  match pair? true a b with
  | some (.ints m n) => if n = 0 then invalid else checked (m / n)
  | some (.floats x y) => .ok (.float (Decimal.quotient x y))
  | _ => invalid

/-- The remainder of two numbers: of integers the Euclidean one, of floats the one with the sign
of the dividend. -/
def rem (a b : Value) : Answer Value :=
  match pair? true a b with
  | some (.ints m n) => if n = 0 || !fitsInt (m / n) then invalid else checked (m % n)
  | some (.floats x y) => .ok (.float (Decimal.remainder x y))
  | _ => invalid

def intPow (base exponent : Int) : Answer Value :=
  if exponent < 0 ∨ Decimal.twoTo 32 ≤ exponent then invalid
  else if base.natAbs ≤ 1 then
    .ok (.int (if exponent = 0 then 1 else if exponent % 2 = 0 then base * base else base))
  else if 127 < exponent then invalid
  else checked (Int.pow base exponent.natAbs)

def pow (a b : Value) : Answer Value :=
  match pair? true a b with
  | some (.ints m n) => intPow m n
  | some (.floats x y) => .ok (.float (x.pow y))
  | _ => invalid

def neg : Value → Answer Value
  | int n => if n = Decimal.twoTo 127 then .ok (.int (-n)) else if fitsInt n then checked (-n) else invalid
  | float x => .ok (.float (-x))
  | _ => invalid

def concat (a b : Value) : Value := .text (a.display ++ b.display)

def contains (container value : Value) : Answer Bool :=
  match container with
  | undefined => .ok false
  | string _ s => .ok (Text.hasPart value.display.toList s.toList)
  | list items => .ok (items.any (equal · value))
  | sequence _ items => .ok (items.any (equal · value))
  | table _ entries => .ok (lookup? value entries).isSome
  | function _ => .ok false
  | _ => invalid

end Value

end BlockTemplates.Expr
