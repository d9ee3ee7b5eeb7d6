import BlockTemplates.Yaml.Block
import BlockTemplates.Yaml.Plain
import BlockTemplates.Yaml.Quoted
import BlockTemplates.Yaml.Tag

/-! The tokens of a YAML text, with marks where indentation opens and closes blocks. A key without
a mark of its own is noticed only at the colon after it; its mark is put in at the place where it
has begun, which must be on the same line and not too far away. -/

namespace BlockTemplates.Yaml

inductive Token where
  | directive (d : Directive)
  | documentStart
  | documentEnd
  | blockSequence
  | blockMapping
  | blockEnd
  | flowSequence
  | flowSequenceEnd
  | flowMapping
  | flowMappingEnd
  | blockEntry
  | flowEntry
  | key
  | value
  | anchor (name : String)
  | reference (name : String)
  | tag (handle suffix : String)
  | text (s : String) (plain : Bool)
  deriving Repr, DecidableEq, Inhabited

/-- A place where a key may have begun. -/
structure Spot where
  number : Nat
  start : Glyph
  /-- Whether nothing but a key can begin there. -/
  required : Bool
  deriving Repr, DecidableEq, Inhabited

def maxKeyLength : Nat := 1024

structure Layout where
  tokens : Array Token
  /-- The column of the innermost block, and those of the blocks around it. -/
  indent : Int
  outer : List Int
  keyAllowed : Bool
  spot : Option Spot
  outerSpots : List (Option Spot)
  deriving Repr, Inhabited

namespace Layout

def empty : Layout := ⟨#[], -1, [], true, none, []⟩

def inFlow (layout : Layout) : Bool := !layout.outerSpots.isEmpty

def push (layout : Layout) (token : Token) : Layout := { layout with tokens := layout.tokens.push token }

def allow (layout : Layout) (keyAllowed : Bool) : Layout := { layout with keyAllowed }

def dropSpot? (layout : Layout) : Option Layout :=
  if layout.spot.any Spot.required then none else some { layout with spot := none }

/-- A place where a key may have begun, as long as the text has not gone on too far. -/
def fresh? (g : Glyph) : Option Spot → Option (Option Spot)
  | none => some none
  | some spot =>
    if spot.start.line < g.line || spot.start.index + maxKeyLength < g.index then
      if spot.required then none else some none
    else some (some spot)

def dropStale? (layout : Layout) (g : Glyph) : Option Layout := do
  let spot ← fresh? g layout.spot
  let outerSpots ← layout.outerSpots.mapM (fresh? g)
  some { layout with spot, outerSpots }

def saveSpot? (layout : Layout) (g : Glyph) : Option Layout :=
  if layout.keyAllowed then do
    let layout ← layout.dropSpot?
    let required := !layout.inFlow && layout.indent = g.column
    some { layout with spot := some ⟨layout.tokens.size, g, required⟩ }
  else some layout

def closeBlocks (column : Int) (tokens : Array Token) (indent : Int) : List Int → Array Token × Int × List Int
  | [] => (tokens, indent, [])
  | next :: outer =>
    if column < indent then closeBlocks column (tokens.push .blockEnd) next outer
    else (tokens, indent, next :: outer)

def close (layout : Layout) (column : Int) : Layout :=
  if layout.inFlow then layout
  else
    let (tokens, indent, outer) := closeBlocks column layout.tokens layout.indent layout.outer
    { layout with tokens, indent, outer }

def openBlock (layout : Layout) (column : Nat) (number : Nat) (token : Token) : Layout :=
  if layout.inFlow || (column : Int) ≤ layout.indent then layout
  else
    { layout with
      tokens := layout.tokens.insertIdxIfInBounds number token
      indent := column
      outer := layout.indent :: layout.outer }

def mark? (layout : Layout) (token : Token) : Option Layout := do
  let layout ← (layout.close (-1)).dropSpot?
  some ((layout.allow false).push token)

def openFlow? (layout : Layout) (g : Glyph) (token : Token) : Option Layout := do
  let layout ← layout.saveSpot? g
  some (({ layout with spot := none, outerSpots := layout.spot :: layout.outerSpots }.allow true).push token)

def closeFlow? (layout : Layout) (token : Token) : Option Layout := do
  let layout ← layout.dropSpot?
  let layout := match layout.outerSpots with
    | spot :: outerSpots => { layout with spot, outerSpots }
    | [] => layout
  some ((layout.allow false).push token)

def separate? (layout : Layout) : Option Layout := do
  let layout ← layout.dropSpot?
  some ((layout.allow true).push .flowEntry)

def item? (layout : Layout) (g : Glyph) : Option Layout := do
  if !layout.inFlow && !layout.keyAllowed then none
  else
    let layout ← (layout.openBlock g.column layout.tokens.size .blockSequence).dropSpot?
    some ((layout.allow true).push .blockEntry)

def key? (layout : Layout) (g : Glyph) : Option Layout := do
  if !layout.inFlow && !layout.keyAllowed then none
  else
    let layout ← (layout.openBlock g.column layout.tokens.size .blockMapping).dropSpot?
    some ((layout.allow (!layout.inFlow)).push .key)

def value? (layout : Layout) (g : Glyph) : Option Layout :=
  match layout.spot with
  | some spot =>
    let layout := { layout with tokens := layout.tokens.insertIdxIfInBounds spot.number .key }
    let layout := layout.openBlock spot.start.column spot.number .blockMapping
    some (({ layout with spot := none }.allow false).push .value)
  | none =>
    if !layout.inFlow && !layout.keyAllowed then none
    else
      let layout := layout.openBlock g.column layout.tokens.size .blockMapping
      some ((layout.allow (!layout.inFlow)).push .value)

def node? (layout : Layout) (g : Glyph) (token : Token) : Option Layout := do
  let layout ← layout.saveSpot? g
  some ((layout.allow false).push token)

def anchorName? (s : List Glyph) : Option (String × List Glyph) :=
  let (name, rest) := takeName s
  let ended := endsWord rest || starts (['?', ':', ',', ']', '}', '%', '@', '\x60'].contains ·) rest
  if name.isEmpty || !ended then none else some (name, rest)

def token? (layout : Layout) (s : List Glyph) : Option (Layout × List Glyph) :=
  match s with
  | [] => none
  | g :: rest => do
    let layout := (← layout.dropStale? g).close g.column
    let c := g.char
    if g.column = 0 ∧ c = '%' then
      let (directive, rest) ← directive? rest
      return (← layout.mark? (.directive directive), rest)
    else if isMarker '-' s then return (← layout.mark? .documentStart, s.drop 3)
    else if isMarker '.' s then return (← layout.mark? .documentEnd, s.drop 3)
    else if c = '[' then return (← layout.openFlow? g .flowSequence, rest)
    else if c = '{' then return (← layout.openFlow? g .flowMapping, rest)
    else if c = ']' then return (← layout.closeFlow? .flowSequenceEnd, rest)
    else if c = '}' then return (← layout.closeFlow? .flowMappingEnd, rest)
    else if c = ',' then return (← layout.separate?, rest)
    else if c = '-' ∧ endsWord rest then return (← layout.item? g, rest)
    else if c = '?' ∧ (layout.inFlow ∨ endsWord rest) then return (← layout.key? g, rest)
    else if c = ':' ∧ (layout.inFlow ∨ endsWord rest) then return (← layout.value? g, rest)
    else if c = '*' then
      let (name, rest) ← anchorName? rest
      return (← layout.node? g (.reference name), rest)
    else if c = '&' then
      let (name, rest) ← anchorName? rest
      return (← layout.node? g (.anchor name), rest)
    else if c = '!' then
      let (handle, suffix, rest) ← tag? layout.inFlow rest
      return (← layout.node? g (.tag handle suffix), rest)
    else if (c = '|' ∨ c = '>') ∧ !layout.inFlow then
      let layout ← layout.dropSpot?
      let (text, rest) ← blockText? (c = '|') layout.indent rest
      return ((layout.allow true).push (.text (String.ofList text) false), rest)
    else if c = '\'' then
      let (text, rest) ← single? .empty rest
      return (← layout.node? g (.text (String.ofList text) false), rest)
    else if c = '"' then
      let (text, rest) ← double? .empty rest
      return (← layout.node? g (.text (String.ofList text) false), rest)
    else if startsPlain layout.inFlow s then
      let read ← plain? layout.inFlow (layout.indent + 1) .empty s
      let layout ← layout.node? g (.text (String.ofList read.text) true)
      return (if read.gap.hasLines then layout.allow true else layout, read.rest)
    else none

/-- Whether a key may begin at the next token, and the text from there on. Between brackets, and
where no key may begin, tabs may stand before it. -/
def skipBlank (inFlow keyAllowed inComment : Bool) : List Glyph → Bool × List Glyph
  | [] => (keyAllowed, [])
  | g :: rest =>
    if isBreak g.char then skipBlank inFlow (keyAllowed || !inFlow) false rest
    else if inComment || g.char = ' ' || (g.char = '\t' && (inFlow || !keyAllowed))
        || (g.char = '\uFEFF' && g.column = 0) then
      skipBlank inFlow keyAllowed inComment rest
    else if g.char = '#' then skipBlank inFlow keyAllowed true rest
    else (keyAllowed, g :: rest)

/-- The layout at the end of a text. `steps` bounds the number of tokens that are read, each of
which takes at least one character. -/
def run? (steps : Nat) (layout : Layout) (s : List Glyph) : Option Layout :=
  match steps with
  | 0 => none
  | steps + 1 =>
    let (keyAllowed, s) := skipBlank layout.inFlow layout.keyAllowed false s
    let layout := layout.allow keyAllowed
    if s.isEmpty then (layout.close (-1)).dropSpot?
    else (layout.token? s).bind (fun (layout, rest) => run? steps layout rest)

end Layout

def tokens? (text : String) : Option (List Token) := do
  let s ← glyphs? text
  let layout ← Layout.run? (s.length + 1) .empty s
  some layout.tokens.toList

end BlockTemplates.Yaml
