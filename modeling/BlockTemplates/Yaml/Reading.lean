import BlockTemplates.Data
import BlockTemplates.Decimal.Numeral
import BlockTemplates.Decimal.Power
import BlockTemplates.Toml.Scalar
import BlockTemplates.Yaml.Tree

/-! The data that a YAML document stands for. A text without quotes or a tag is null, a truth value
or a number if it looks like one. Depth and repetition are limited, so that references cannot make
data without end. -/

namespace BlockTemplates.Yaml

/-- The bases that a mark before digits stands for. -/
def bases : List (List Char × Nat × (Char → Bool)) :=
  [(['0', 'x'], 16, Toml.isHexDigit), (['0', 'o'], 8, fun c => '0' ≤ c && c ≤ '7'),
    (['0', 'b'], 2, fun c => c = '0' || c = '1')]

def basedNumber? (s : List Char) : Option Nat :=
  bases.findSome? (fun (mark, base, isDigit) =>
    let digits := s.drop mark.length
    if mark.isPrefixOf s && !digits.isEmpty && digits.all isDigit then some (Toml.ofDigits base digits) else none)

def isPadded (s : List Char) : Bool := 1 < s.length && s.head? = some '0' && s.all Char.isDigit

def wholeNumber? (s : List Char) : Option Nat :=
  basedNumber? s <|> (if isPadded s then none else Decimal.natOfDigits? s)

def integer? (s : List Char) : Option Int :=
  match s with
  | '-' :: rest => ((wholeNumber? rest).filter (· ≤ Decimal.twoTo 127)).map (fun n => -(n : Int))
  | '+' :: rest => ((wholeNumber? rest).filter (· < Decimal.twoTo 128)).map Int.ofNat
  | _ => ((wholeNumber? s).filter (· < Decimal.twoTo 128)).map Int.ofNat

def integerData? (n : Int) : Option Data := 
  if -Decimal.twoTo 63 ≤ n ∧ n < Decimal.twoTo 64 then some (.int n) else none

def isInfinity (s : List Char) : Bool := [".inf", ".Inf", ".INF"].contains (String.ofList s)

def isNotANumber (s : List Char) : Bool := [".nan", ".NaN", ".NAN"].contains (String.ofList s)

/-- The data that a text stands for as a float. There is no data for infinity and for no number,
which are null. -/
def float? (s : List Char) : Option Data :=
  let (sign, size) := match s with
    | '+' :: rest => (some '+', rest)
    | '-' :: rest => (some '-', rest)
    | _ => (none, s)
  if isInfinity size || (sign.isNone && isNotANumber s) then some .null
  else if sign.isSome && (size.head? = some '+' || size.head? = some '-') then none
  else
    match Decimal.numeralOf? s with
    | some (.finite negative digits exponent) =>
      let x := (Decimal.Numeral.finite negative digits exponent).toFloat
      if x.isFinite then some (.float x) else none
    | _ => none

def flag? (s : String) : Option Bool :=
  if ["true", "True", "TRUE"].contains s then some true
  else if ["false", "False", "FALSE"].contains s then some false
  else none

def isNull (s : String) : Bool := ["null", "Null", "NULL", "~"].contains s

/-- Whether a text is a number but for zeros in front. -/
def isPaddedNumber (s : List Char) : Bool :=
  match s with
  | '-' :: rest => isPadded rest
  | '+' :: rest => isPadded rest
  | _ => isPadded s

def plainData? (s : String) : Option Data :=
  if s = "" ∨ isNull s then some .null
  else
    match flag? s, integer? s.toList with
    | some b, _ => some (.bool b)
    | none, some n => integerData? n
    | none, none =>
      if isPaddedNumber s.toList then some (.string s) else some ((float? s.toList).getD (.string s))

def taggedData? (tag s : String) : Option Data :=
  if tag.startsWith "!" then none
  else if tag = "tag:yaml.org,2002:bool" then (flag? s).map .bool
  else if tag = "tag:yaml.org,2002:int" then (integer? s.toList).bind integerData?
  else if tag = "tag:yaml.org,2002:float" then float? s.toList
  else if tag = "tag:yaml.org,2002:null" then (if isNull s then some .null else none)
  else some (.string s)

def textData? (tag : Option String) (plain : Bool) (s : String) : Option Data :=
  match tag with
  | some tag => taggedData? tag s
  | none => if plain then plainData? s else some (.string s)

def isOwn (tag : Option String) : Bool := tag.any (·.startsWith "!")

def maxDepth : Nat := 128

def maxRepetition : Nat := 100

abbrev Counting := StateT Nat Option

namespace Document

def follow (document : Document) (node : Node) : Counting Node := fun count =>
  match node with
  | .reference number =>
    if document.size * maxRepetition ≤ count then none
    else (document.node? number).map (·, count + 1)
  | node => some (node, count)

def keyText (document : Document) (node : Node) : Counting String := do
  match ← document.follow node with
  | .text _ _ s => return s
  | _ => failure

def dataWithin (document : Document) : Nat → Node → Counting Data
  | 0, node => do
    match ← document.follow node with
    | .text tag plain s => textData? tag plain s
    | _ => failure
  | depth + 1, node => do
    match ← document.follow node with
    | .text tag plain s => textData? tag plain s
    | .sequence tag items =>
      if isOwn tag then failure
      else return .list (← items.mapM (document.dataWithin depth))
    | .mapping tag entries =>
      if isOwn tag then failure
      else
        return Data.ofEntries (← entries.mapM (fun entry => do
          let key ← document.keyText entry.1
          return (key, ← document.dataWithin depth entry.2)))
    | .reference _ => failure

def toData? (document : Document) : Option Data := (document.dataWithin maxDepth document.root).run' 0

end Document

def data? (text : String) : Option Data := (document? text).bind Document.toData?

end BlockTemplates.Yaml
