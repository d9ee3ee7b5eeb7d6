import BlockTemplates.Decimal.Binary64
import BlockTemplates.Decimal.Power
import BlockTemplates.Expr.Value

/-! Equality and order of values. Numbers are compared by value whatever their type, values of
different kinds by their kinds, lists item by item and tables entry by entry. -/

namespace BlockTemplates.Expr

def fitsInt (n : Int) : Bool := -Decimal.twoTo 127 ≤ n && n < Decimal.twoTo 127

inductive Pair where
  | ints (a b : Int)
  | floats (a b : Float)
  | texts (a b : String)

namespace Value

def asInt? : Value → Option Int
  | bool b => some (if b then 1 else 0)
  | int n => some n
  | _ => .none

def wholeOf (x : Float) : Int :=
  match Decimal.decode x with
  | .finite negative mantissa exponent =>
    let size : Nat := Decimal.wholePart mantissa exponent
    if negative then -(size : Int) else size
  | _ => 0

def floatOfInt (n : Int) : Float := Float.ofInt n

/-- Whether an integer survives the conversion to a float and back. The largest integer of a word
does, because the way back stops there. -/
def isExact (n : Int) : Bool :=
  let back := wholeOf (floatOfInt n)
  back = n || (n = Decimal.twoTo 64 - 1 && back = Decimal.twoTo 64) ||
    (n = Decimal.twoTo 128 - 1 && back = Decimal.twoTo 128)

/-- The float that a number or a truth value counts as; an integer that no float stands for counts
only when some loss is allowed. -/
def asFloat? (lossy : Bool) : Value → Option Float
  | bool b => some (if b then 1.0 else 0.0)
  | int n => if lossy || isExact n then some (floatOfInt n) else .none
  | float x => some x
  | _ => .none

/-- The pattern of 128 bits of a large number read as a signed integer. -/
def wrapWide (n : Int) : Int := 
  if n < Decimal.twoTo 127 then n else n - Decimal.twoTo 128

/-- Two operands brought to one type: floats if one is a float, integers otherwise. -/
def pair? (lossy : Bool) (a b : Value) : Option Pair :=
  match a, b with
  | string _ s, string _ t => some (.texts s t)
  | float x, b => (b.asFloat? lossy).map (.floats x)
  | a, float y => (a.asFloat? lossy).map (.floats · y)
  | a, b =>
    match a.asInt?, b.asInt? with
    | some m, some n =>
      if Decimal.twoTo 64 ≤ m ∧ Decimal.twoTo 64 ≤ n then some (.ints (wrapWide m) (wrapWide n))
      else if fitsInt m && fitsInt n then some (.ints m n)
      else .none
    | _, _ => .none

/-- The place of a float in the order of all floats: below zero the larger magnitudes come first,
and a negative zero comes before zero. -/
def floatRank (x : Float) : Int :=
  let bits := x.toBits.toNat
  let magnitude : Nat := bits % Decimal.twoTo 63
  if bits < Decimal.twoTo 63 then (magnitude : Int) else -(magnitude : Int) - 1

def compareScalars (a b : Value) : Ordering :=
  match a, b with
  | bytes s, bytes t => compare s t
  | a, b =>
    match pair? true a b with
    | some (.ints m n) => compare m n
    | some (.floats x y) => compare (floatRank x) (floatRank y)
    | some (.texts s t) => compare s t
    | .none => .eq

mutual

def order (a b : Value) : Ordering :=
  (compare a.kind.rank b.kind.rank).then <|
    match a, b with
    | list items, b => orderItems items b.items
    | sequence _ items, b => orderItems items b.items
    | table _ entries, b => orderEntries entries b.entries
    | a, b => compareScalars a b

def orderItems : List Value → List Value → Ordering
  | [], [] => .eq
  | [], _ :: _ => .lt
  | _ :: _, [] => .gt
  | a :: as, b :: bs => (order a b).then (orderItems as bs)

def orderEntries : List (Value × Value) → List (Value × Value) → Ordering
  | [], [] => .eq
  | [], _ :: _ => .lt
  | _ :: _, [] => .gt
  | (k, v) :: as, (l, w) :: bs => (order k l).then ((order v w).then (orderEntries as bs))

end

def equalScalars (a b : Value) : Bool :=
  match a, b with
  | undefined, undefined => true
  | none, none => true
  | bytes s, bytes t => s == t
  | function f, function g => f == g
  | a, b =>
    match pair? false a b with
    | some (.ints m n) => m == n
    | some (.floats x y) => x == y
    | some (.texts s t) => s == t
    | .none => false

def isLinear : Value → Bool
  | list _ => true
  | sequence _ _ => true
  | _ => false

def isTable : Value → Bool
  | table _ _ => true
  | _ => false

mutual

def equal (a b : Value) : Bool :=
  match a, b with
  | list items, b => b.isLinear && equalItems items b.items
  | sequence _ items, b => b.isLinear && equalItems items b.items
  | table _ entries, b => b.isTable && equalEntries entries b.entries
  | a, b => equalScalars a b

def equalItems : List Value → List Value → Bool
  | [], [] => true
  | a :: as, b :: bs => equal a b && equalItems as bs
  | _, _ => false

def equalEntries : List (Value × Value) → List (Value × Value) → Bool
  | [], [] => true
  | (k, v) :: as, (l, w) :: bs => order k l == .eq && equal v w && equalEntries as bs
  | _, _ => false

end

def lookup? (key : Value) (entries : List (Value × Value)) : Option Value :=
  (entries.find? (fun entry => order key entry.1 == .eq)).map Prod.snd

def insertEntry (key value : Value) : List (Value × Value) → List (Value × Value)
  | [] => [(key, value)]
  | (k, v) :: rest =>
    match order key k with
    | .lt => (key, value) :: (k, v) :: rest
    | .eq => (k, value) :: rest
    | .gt => (k, v) :: insertEntry key value rest

def insertEntries (entries others : List (Value × Value)) : List (Value × Value) :=
  others.foldl (fun built entry => insertEntry entry.1 entry.2 built) entries

end Value

end BlockTemplates.Expr
