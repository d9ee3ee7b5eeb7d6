import BlockTemplates.Data
import BlockTemplates.Decimal.Numeral
import BlockTemplates.Decimal.Power

/-! JSON documents as written. Numbers keep their digits, objects keep the order and the
repetitions of their members, and a string whose escapes do not all name characters has no text.
`toData?` says which documents hold a data value, and which. -/

namespace BlockTemplates

namespace Json

structure Number where
  negative : Bool
  whole : List Char
  fraction : Option (List Char)
  exponent : Option Int
  deriving Repr, DecidableEq, Inhabited

abbrev Text := Option String

def word : Nat := Decimal.twoTo 64 - 1

def fitting (start : Nat) : List Char → Nat × List Char
  | [] => (start, [])
  | c :: rest =>
    let next := 10 * start + (c.toNat - 48)
    if next ≤ word then fitting next rest else (start, c :: rest)

namespace Number

/-- The float of a number. Its digits count as long as they fit 64 bits; whole digits beyond that
raise the exponent and places beyond that are dropped. -/
def toFloat? (n : Number) : Option Float :=
  let (size, beyond) := fitting 0 n.whole
  let places := n.fraction.getD []
  let (size, dropped) := fitting size places
  let exponent : Int := n.exponent.getD 0 + beyond.length - (places.length - dropped.length : Nat)
  (Decimal.scaled? size exponent).map (fun x => if n.negative then -x else x)

/-- The data value of a number: whole numbers of 64 bits are integers, others and `-0` floats. -/
def toData? (n : Number) : Option Data :=
  match n.fraction, n.exponent with
  | none, none =>
    let size := Decimal.foldDigits 0 n.whole
    if n.negative then
      if size ≠ 0 ∧ size ≤ Decimal.twoTo 63 then some (.int (-size)) else n.toFloat?.map .float
    else if size ≤ word then some (.int size)
    else n.toFloat?.map .float
  | _, _ => n.toFloat?.map .float

end Number

end Json

inductive Json where
  | null
  | bool (b : Bool)
  | number (n : Json.Number)
  | string (text : Json.Text)
  | array (items : List Json)
  | object (members : List (Json.Text × Json))
  deriving Repr, BEq, Inhabited

namespace Json

def maxDepth : Nat := 127

mutual

def toDataWithin? (depth : Nat) : Json → Option Data
  | .null => some .null
  | .bool b => some (.bool b)
  | .number n => n.toData?
  | .string text => text.map .string
  | .array items =>
    match depth with
    | 0 => none
    | depth + 1 => (itemsWithin? depth items).map .list
  | .object members =>
    match depth with
    | 0 => none
    | depth + 1 => (membersWithin? depth members).map Data.ofEntries

def itemsWithin? (depth : Nat) : List Json → Option (List Data)
  | [] => some []
  | item :: rest => do
    let value ← toDataWithin? depth item
    let values ← itemsWithin? depth rest
    some (value :: values)

def membersWithin? (depth : Nat) : List (Text × Json) → Option (List (String × Data))
  | [] => some []
  | (key, item) :: rest => do
    let key ← key
    let value ← toDataWithin? depth item
    let values ← membersWithin? depth rest
    some ((key, value) :: values)

end

def toData? (document : Json) : Option Data := toDataWithin? maxDepth document

end Json

end BlockTemplates
