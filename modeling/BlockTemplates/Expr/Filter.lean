import BlockTemplates.Decimal.Power
import BlockTemplates.Expr.Format
import BlockTemplates.Expr.Test
import BlockTemplates.Text.Indent
import BlockTemplates.Text.Markup

/-! Filters: the named functions that a vertical bar applies to a value. -/

namespace BlockTemplates.Expr

inductive Filter where
  | upper
  | lower
  | title
  | capitalize
  | trim
  | length
  | replace
  | reverse
  | sort
  | join
  | map
  | default
  | first
  | last
  | min
  | max
  | sum
  | list
  | items
  | dictsort
  | round
  | abs
  | int
  | float
  | string
  | bool
  | escape
  | safe
  | split
  | lines
  | unique
  | batch
  | slice
  | select
  | reject
  | selectattr
  | rejectattr
  | format
  | indent
  | attr
  | zip
  | chain
  | pprint
  deriving Repr, DecidableEq, Inhabited

namespace Filter

def names : List (String × Filter) :=
  [("upper", upper), ("lower", lower), ("title", title), ("capitalize", capitalize), ("trim", trim),
    ("length", length), ("count", length), ("replace", replace), ("reverse", reverse), ("sort", sort),
    ("join", join), ("map", map), ("default", default), ("d", default), ("first", first),
    ("last", last), ("min", min), ("max", max), ("sum", sum), ("list", list), ("items", items),
    ("dictsort", dictsort), ("round", round), ("abs", abs), ("int", int), ("float", float),
    ("string", string), ("bool", bool), ("escape", escape), ("e", escape), ("safe", safe),
    ("split", split), ("lines", lines), ("unique", unique), ("batch", batch), ("slice", slice),
    ("select", select), ("reject", reject), ("selectattr", selectattr), ("rejectattr", rejectattr),
    ("format", format), ("indent", indent), ("attr", attr), ("zip", zip), ("chain", chain),
    ("pprint", pprint)]

def ofName? (name : String) : Option Filter := names.lookup name

end Filter

def passes (name : String) (arguments : List Value) : Answer Bool :=
  applyTest (Filter.names.map Prod.fst) name arguments

namespace Value

def ofChars (s : List Char) : Value := .text (String.ofList s)

def sortKey (caseSensitive : Bool) : Value → Value
  | string safe s => if caseSensitive then .string safe s else .text (s.map Char.toLower)
  | value => value

def sortsBefore (caseSensitive : Bool) (a b : Value) : Bool :=
  order (a.sortKey caseSensitive) (b.sortKey caseSensitive) != .gt

def reversed : Value → Answer Value
  | undefined => .ok undefined
  | none => .ok none
  | string _ s => .ok (ofChars s.toList.reverse)
  | bytes codes => .ok (.bytes codes.reverse)
  | list items => .ok (.sequence true items.reverse)
  | sequence _ items => .ok (.sequence true items.reverse)
  | table _ entries => .ok (.sequence true (entries.map Prod.fst).reverse)
  | _ => invalid

def firstItem : Value → Answer Value
  | string _ s => .ok ((s.toList.head?.map (fun c => text (String.singleton c))).getD undefined)
  | list items => .ok (items.head?.getD undefined)
  | sequence _ items => .ok (items.head?.getD undefined)
  | table _ entries => .ok ((entries.head?.map Prod.fst).getD undefined)
  | _ => invalid

def lastItem : Value → Answer Value
  | string _ s => .ok ((s.toList.getLast?.map (fun c => text (String.singleton c))).getD undefined)
  | list items => .ok (items.getLast?.getD undefined)
  | sequence _ items => .ok (items.getLast?.getD undefined)
  | _ => invalid

/-- The first of the smallest values. -/
def smallest : List Value → Value
  | [] => undefined
  | first :: rest => rest.foldl (fun least item => if order item least == .lt then item else least) first

/-- The last of the largest values. -/
def largest : List Value → Value
  | [] => undefined
  | first :: rest => rest.foldl (fun most item => if order item most == .lt then most else item) first

/-- The sum of numbers; undefined items do not count. -/
def sumOf (items : List Value) : Answer Value :=
  items.foldlM (fun total item =>
    if item.isUndefined then .ok total else if item.kind = .number then add total item else invalid)
    (.int 0)

def tenPower (exponent : Int) : Float :=
  let size := power 64 10.0 1.0 exponent.natAbs
  if exponent < 0 then 1.0 / size else size
where
  power : Nat → Float → Float → Nat → Float
    | 0, _, result, _ => result
    | steps + 1, base, result, n =>
      let result := if n % 2 = 1 then result * base else result
      if n / 2 = 0 then result else power steps (base * base) result (n / 2)

/-- A number rounded to some places after the point, a half away from zero. -/
def rounded (places : Int) : Value → Answer Value
  | int n => .ok (.int n)
  | float x => .ok (.float ((tenPower places * x).round / tenPower places))
  | _ => invalid

def absolute : Value → Answer Value
  | int n => if fitsInt n.natAbs || 0 ≤ n then .ok (.int n.natAbs) else invalid
  | float x => .ok (.float x.abs)
  | _ => invalid

def saturate (x : Float) : Int := 
  max (-Decimal.twoTo 127) (min (Decimal.twoTo 127 - 1) (truncated x))
where
  /-- The whole part of a float; infinities lie beyond every integer of 128 bits. -/
  truncated (x : Float) : Int :=
    match Decimal.decode x with
    | .infinite negative => if negative then -Decimal.twoTo 127 else Decimal.twoTo 127
    | _ => wholeOf x

def intOfText? (s : String) : Option Int :=
  let (negative, digits) := Decimal.takeSign s.toList
  (Decimal.natOfDigits? digits).bind fun size =>
    let n : Int := if negative then -(size : Int) else size
    if fitsInt n then some n else .none

def toInteger : Value → Answer Value
  | undefined => .ok (.int 0)
  | none => .ok (.int 0)
  | bool b => .ok (.int (if b then 1 else 0))
  | int n => .ok (.int n)
  | float x => .ok (.int (saturate x))
  | string _ s =>
    match intOfText? s with
    | some n => .ok (.int n)
    | .none => (orInvalid (Decimal.floatOf? s.toList)).map (fun x => .int (saturate x))
  | _ => invalid

def toFloat : Value → Answer Value
  | undefined => .ok (.float 0.0)
  | none => .ok (.float 0.0)
  | bool b => .ok (.float (if b then 1.0 else 0.0))
  | int n => .ok (.float (floatOfInt n))
  | float x => .ok (.float x)
  | string _ s => (orInvalid (Decimal.floatOf? s.toList)).map .float
  | _ => invalid

def toText : Value → Value
  | string safe s => .string safe s
  | value => .text value.display

def escaped (value : Value) : Value :=
  if value.isSafe then value else .string true (Text.markup value.display)

def groups (count : Nat) (items : List Value) : List (List Value) :=
  match items with
  | [] => []
  | first :: rest =>
    (first :: rest.take (count - 1)) :: groups count (rest.drop (count - 1))
termination_by items.length
decreasing_by simp only [List.length_cons, List.length_drop]; omega

/-- Items in groups of `count`, the last filled up. -/
def batched (count : Nat) (filler : Option Value) (items : List Value) : List Value :=
  (groups count items).map fun group =>
    match filler with
    | some value => list (group ++ List.replicate (count - group.length) value)
    | .none => list group

/-- Items in `count` columns, the first of which are longer by one when the items do not come out
even; the others are filled up. -/
def columns (count : Nat) (filler : Option Value) (items : List Value) : List Value :=
  let short := items.length / count
  let long := items.length % count
  (List.range count).map fun column =>
    let start := column * short + min column long
    let size := if column < long then short + 1 else short
    let taken := (items.drop start).take size
    match filler with
    | some value => list (if column < long then taken else taken ++ [value])
    | .none => list taken

def distinct (keyed : List (Value × Value)) : List Value :=
  (keyed.foldl (fun (kept : List (Value × Value)) entry =>
    if kept.any (fun earlier => order earlier.1 entry.1 == .eq) then kept else kept ++ [entry])
    []).map Prod.snd

def distinctKey (caseSensitive : Bool) : Value → Value
  | string safe s => if caseSensitive then .string safe s else ofChars (Text.lower s.toList)
  | value => value

def pathOrUndefined (value : Value) (path : String) : Value := (value.path path).toOption.getD undefined

/-- Texts joined with another one between them, which is left out until there is some text. -/
def joinTexts (separator : String) (texts : List String) : String :=
  texts.foldl (fun joined s => if joined.isEmpty then s else joined ++ separator ++ s) ""

def zipped (lists : List (List Value)) (count : Nat) : List Value :=
  (List.range count).map (fun i => list (lists.filterMap (·[i]?)))

def chained (values : List Value) : Answer Value :=
  if values.all isTable then
    .ok (.table false (values.foldl (fun merged value => insertEntries merged value.entries) []))
  else do
    let joined ← values.mapM walk
    if values.all (·.kind = .list) then return list joined.flatten
    else return sequence (values.all isSized) joined.flatten

def pairs (entries : List (Value × Value)) : Value := list (entries.map (fun entry => list [entry.1, entry.2]))

end Value

namespace Filter

/-- The values that pass a test, or those that do not. Without a test the values that are true
pass; with a path the test is about that part of a value. -/
def choose (wanted : Bool) (part : Option String) (question : Option String)
    (arguments items : List Value) : Answer Value := do
  let kept ← items.filterM fun item => do
    let tested ← match part with
      | none => pure item
      | some path => item.path path
    let passed ← match question with
      | none => pure tested.isTrue
      | some question => passes question (tested :: arguments)
    return passed == wanted
  return .list kept

def questionNamed (question : Option String) : Answer Unit :=
  match question with
  | none => .ok ()
  | some question => if (Test.ofName? question).isSome then .ok () else .error .unknownTest

def mapParts (options : Named) (key : Value) (items : List Value) : Answer Value := do
  let fallback := options.get? "default"
  let parts ← items.mapM fun item => do
    let part : Answer Value :=
      match key.text? with
      | some path => item.path path
      | none => if item.isUndefined then .error .undefinedValue else .ok ((item.item? key).getD .undefined)
    match part, fallback with
    | .ok part, fallback => return if part.isUndefined then fallback.getD .undefined else part
    | .error error, none => throw error
    | .error _, some fallback => return fallback
  options.only ["attribute", "default"]
  return .list parts

/-- The answer of `map`: the parts that a named argument names, or the answers of the filter that
the first argument names. -/
def mapped (inner : String → List Value → Answer Value) (subject : Value) (arguments : List Value) :
    Answer Value := do
  let (options, positional) ← Arguments.named arguments
  match options.get? "attribute", arguments with
  | some key, _ =>
    if positional.isEmpty then mapParts options key (← walk subject) else throw .tooManyArguments
  | none, [] => invalid
  | none, function :: arguments =>
    let name ← orInvalid function.text?
    if (ofName? name).isNone then throw .unknownFilter
    let answers ← (← walk subject).mapM (fun item => inner name (item :: arguments))
    return .list answers

def sorted (subject : Value) (options : Named) : Answer Value := do
  let items ← walk subject
  let caseSensitive ← options.flag "case_sensitive"
  let key ← options.string? "attribute"
  let keyed := items.map (fun item =>
    (match key with | none => item | some path => item.pathOrUndefined path, item))
  let sorted := (keyed.mergeSort (fun a b => Value.sortsBefore caseSensitive a.1 b.1)).map Prod.snd
  let backwards ← options.flag "reverse"
  options.only ["case_sensitive", "attribute", "reverse"]
  return .list (if backwards then sorted.reverse else sorted)

def sortedEntries (subject : Value) (options : Named) : Answer Value := do
  if subject.isTable then
    let sortedBy ← options.string? "by"
    let byValue ← match sortedBy with
      | none => pure false
      | some "key" => pure false
      | some "value" => pure true
      | some _ => invalid
    let caseSensitive ← options.flag "case_sensitive"
    let key (entry : Value × Value) : Value := if byValue then entry.2 else entry.1
    let sorted := subject.entries.mergeSort (fun a b => Value.sortsBefore caseSensitive (key a) (key b))
    let backwards ← options.flag "reverse"
    options.only ["by", "case_sensitive", "reverse"]
    return Value.pairs (if backwards then sorted.reverse else sorted)
  else invalid

def uniqueItems (subject : Value) (options : Named) : Answer Value := do
  let items ← walk subject
  let key ← options.string? "attribute"
  let caseSensitive ← options.flag "case_sensitive"
  options.only ["attribute", "case_sensitive"]
  let keyOf (item : Value) : Value :=
    (match key with | none => item | some path => item.pathOrUndefined path).distinctKey caseSensitive
  return .list (Value.distinct (items.map (fun item => (keyOf item, item))))

def pieces (s : List Char) (separator : Option String) (limit : Option Int) : List (List Char) :=
  let count := limit.bind (fun n => if 0 ≤ n then some (n.natAbs + 1) else none)
  match separator, count with
  | none, none => Text.words s
  | none, some n => (Text.splitBlanks n s).filter (!·.isEmpty)
  | some separator, none => Text.splitAt separator.toList s
  | some separator, some n => Text.splitAtMost n separator.toList s

def trimSet (chars s : List Char) : List Char :=
  let strip (s : List Char) : List Char := s.dropWhile chars.contains
  (strip (strip s).reverse).reverse

open Arguments in
def takeChoice (wanted byPart : Bool) : Arguments (Answer Value) := do
  let subject ← value
  let part ← if byPart then some <$> text else pure none
  let question ← optional text
  let arguments ← rest
  return do
    questionNamed question
    choose wanted part question arguments (← walk subject)

open Arguments in
/-- The answer of a filter, given by the arguments it takes: the value it is applied to and further
ones. What is computed from them may fail only after it is certain that none is left over. `inner`
is what `map` applies to each item. -/
def take (inner : String → List Value → Answer Value) (filter : Filter) :
    Arguments (Answer Value) := do
  match filter with
  | upper => return .ok (Value.ofChars (Text.upper (← text).toList))
  | lower => return .ok (Value.ofChars (Text.lower (← text).toList))
  | title => return .ok (Value.ofChars (Text.title (← text).toList))
  | capitalize => return .ok (Value.ofChars (Text.capitalize (← text).toList))
  | trim =>
    let s ← text
    match ← optional text with
    | none => return .ok (Value.ofChars (Text.trim s.toList))
    | some chars => return .ok (Value.ofChars (trimSet chars.toList s.toList))
  | length => return (orInvalid (← value).length?).map (fun n => .int n)
  | replace =>
    let s ← text
    let part ← text
    let other ← text
    return .ok (Value.ofChars (Text.replaceAll part.toList other.toList s.toList))
  | reverse => return (← value).reversed
  | sort =>
    let options ← named
    return sorted (← value) options
  | join =>
    let subject ← value
    let separator ← optional text
    return (walk subject).map (fun items =>
      .text (Value.joinTexts (separator.getD "") (items.map Value.display)))
  | map =>
    let subject ← value
    return mapped inner subject (← rest)
  | default =>
    let subject ← value
    let other ← optional value
    let lax ← optional Arguments.bool
    if subject.isUndefined || (lax.getD false && !subject.isTrue) then
      return .ok (other.getD (.text ""))
    else return .ok subject
  | first => return (← value).firstItem
  | last => return (← value).lastItem
  | min => return (walk (← value)).map Value.smallest
  | max => return (walk (← value)).map Value.largest
  | sum => return walk (← value) >>= Value.sumOf
  | list => return (walk (← value)).map .list
  | items =>
    let subject ← value
    return if subject.isTable then .ok (Value.pairs subject.entries) else invalid
  | dictsort =>
    let options ← named
    return sortedEntries (← value) options
  | round =>
    let number ← value
    let places ← optional whole
    return number.rounded (places.getD 0)
  | abs => return (← value).absolute
  | int => return (← value).toInteger
  | float => return (← value).toFloat
  | string => return .ok (← value).toText
  | bool => return .ok (.bool (← value).isTrue)
  | escape => return .ok (← value).escaped
  | safe => return .ok (.string true (← text))
  | split =>
    let s ← Arguments.string
    let separator ← optional Arguments.string
    let limit ← optional whole
    return .ok (.sequence false ((pieces s.toList separator limit).map Value.ofChars))
  | lines =>
    let s ← Arguments.string
    return .ok (.list ((Text.lines s.toList).map Value.ofChars))
  | unique =>
    let options ← named
    return uniqueItems (← value) options
  | batch =>
    let subject ← value
    let size ← count
    let filler ← optional value
    return if size = 0 then invalid
      else (walk subject).map (fun items => .list (Value.batched size filler items))
  | slice =>
    let subject ← value
    let number ← count
    let filler ← optional value
    return if number = 0 then invalid
      else (walk subject).map (fun items => .list (Value.columns number filler items))
  | select => takeChoice true false
  | reject => takeChoice false false
  | selectattr => takeChoice true true
  | rejectattr => takeChoice false true
  | format =>
    let pattern ← text
    return (fillFormat pattern (← rest)).map .text
  | indent =>
    let s ← text
    let width ← count
    let first ← optional Arguments.bool
    let empty ← optional Arguments.bool
    return .ok (Value.ofChars (Text.indent width (first.getD false) (empty.getD false) s.toList))
  | attr =>
    let container ← value
    let key ← value
    return if container.isUndefined then .error .undefinedValue
      else .ok ((container.item? key).getD .undefined)
  | zip =>
    let subjects ← rest
    return (subjects.mapM (fun subject => walk subject)).map (fun lists =>
      .sequence false (Value.zipped lists ((lists.map List.length).min?.getD 0)))
  | chain => return Value.chained (← rest)
  | pprint => return .ok (.text ((← value).spreadText 0))

end Filter

def filterWithin (depth : Nat) (name : String) (arguments : List Value) : Answer Value :=
  match Filter.ofName? name with
  | none => .error .unknownFilter
  | some function =>
    let inner := match depth with
      | 0 => fun _ _ => invalid
      | depth + 1 => filterWithin depth
    (Arguments.answer (do
      let answer ← function.take inner
      Arguments.done
      return answer) arguments).bind id

/-- The answer of the filter of that name, given its arguments. Each `map` inside another takes one
argument, so that there are no more of them than arguments. -/
def applyFilter (name : String) (arguments : List Value) : Answer Value :=
  filterWithin arguments.length name arguments

end BlockTemplates.Expr
