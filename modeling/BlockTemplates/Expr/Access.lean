import BlockTemplates.Decimal.Numeral
import BlockTemplates.Expr.Arithmetic

/-! Parts of values: fields, items and slices. What is not there is undefined. -/

namespace BlockTemplates.Expr

/-- The position that an index names among `length` items; a negative one counts from the end. -/
def position? (length : Nat) (index : Int) : Option Nat :=
  if 0 ≤ index then some index.natAbs
  else if index.natAbs ≤ length then some (length - index.natAbs)
  else none

/-- The bound that an index of a slice names: it counts from the end when negative, and it is kept
between `low` and `high`. -/
def clampIndex (length : Nat) (low high index : Int) : Int :=
  let place := if index < 0 then index + length else index
  max low (min high place)

def slicePositions (length : Nat) (start stop : Option Int) (step : Int) : List Nat :=
  if 0 < step then
    let first := (start.map (clampIndex length 0 length)).getD 0
    let last := (stop.map (clampIndex length 0 length)).getD length
    (List.range length).filter (fun i => first ≤ i && (i : Int) < last && (i - first) % step == 0)
  else
    let first := (start.map (clampIndex length (-1) (length - 1))).getD (length - 1)
    let last := (stop.map (clampIndex length (-1) (length - 1))).getD (-1)
    (List.range length).reverse.filter (fun i => (i : Int) ≤ first && last < i && (first - i) % step == 0)

def sliceItems {α : Type} (items : List α) (start stop : Option Int) (step : Int) : List α :=
  (slicePositions items.length start stop step).filterMap (items[·]?)

namespace Value

def field? (name : String) : Value → Option Value
  | table _ entries => lookup? (.text name) entries
  | _ => .none

def item? (container key : Value) : Option Value :=
  match container with
  | table _ entries => lookup? key entries
  | list items => (key.asWhole?.bind (position? items.length)).bind (items[·]?)
  | sequence sized items =>
    key.asWhole?.bind fun index =>
      if index < 0 && !sized then .none else (position? items.length index).bind (items[·]?)
  | string _ s =>
    ((key.asWhole?.bind (position? s.length)).bind (s.toList[·]?)).map (fun c => text (String.singleton c))
  | bytes codes =>
    ((key.asWhole?.bind (position? codes.length)).bind (codes[·]?)).map (fun code => .int code)
  | _ => .none

def sliceBound (bound : Value) : Answer (Option Int) :=
  match bound with
  | none => .ok Option.none
  | bound => (orInvalid bound.asWhole?).map some

def slice (container start stop step : Value) : Answer Value := do
  let start ← sliceBound start
  let stop ← sliceBound stop
  let step ← (·.getD 1) <$> sliceBound step
  if step = 0 then invalid
  else
    match container with
    | undefined => .ok (.list [])
    | none => .ok (.list [])
    | string _ s => .ok (.text (String.ofList (sliceItems s.toList start stop step)))
    | bytes codes => .ok (.bytes (sliceItems codes start stop step))
    | list items => .ok (.sequence true (sliceItems items start stop step))
    | sequence _ items => .ok (.sequence true (sliceItems items start stop step))
    | _ => invalid

def pathParts (path : String) : List String := (Text.splitAt ['.'] path.toList).map String.ofList

/-- The part that one step of a path names; undefined has no parts. -/
def step (container : Value) (part : String) : Answer Value :=
  match container with
  | undefined => .error .undefinedValue
  | container =>
    match Decimal.natOfDigits? part.toList with
    | some index => .ok ((container.item? (.int index)).getD undefined)
    | .none => .ok ((container.field? part).getD undefined)

def path (container : Value) (path : String) : Answer Value := (pathParts path).foldlM step container

end Value

end BlockTemplates.Expr
