import BlockTemplates.Yaml.Glyph

/-! Texts in indented blocks. The first line that is not empty sets the indentation unless the
header gives it; a literal block keeps its line ends, a folded one joins lines that are not
indented further. -/

namespace BlockTemplates.Yaml

inductive Chomp where
  | strip
  | clip
  | keep
  deriving Repr, DecidableEq, Inhabited

def chomp? (c : Char) : Option Chomp :=
  if c = '-' then some .strip else if c = '+' then some .keep else none

def takeChomp : List Glyph → Option Chomp × List Glyph
  | g :: rest =>
    match chomp? g.char with
    | some chomp => (some chomp, rest)
    | none => (none, g :: rest)
  | [] => (none, [])

def takeDepth? : List Glyph → Option (Nat × List Glyph)
  | g :: rest =>
    if g.char = '0' then none
    else if g.char.isDigit then some (g.char.toNat - '0'.toNat, rest)
    else some (0, g :: rest)
  | [] => some (0, [])

def header? (s : List Glyph) : Option (Chomp × Nat × List Glyph) := do
  let (before, s) := takeChomp s
  let (depth, s) ← takeDepth? s
  let (chomp, s) := match before with
    | some chomp => (chomp, s)
    | none =>
      let (after, rest) := takeChomp s
      if depth = 0 then (.clip, s) else (after.getD .clip, rest)
  let rest ← afterLine? s
  some (chomp, depth, rest)

abbrev Line := List Glyph

def lines : List Glyph → List Line
  | [] => []
  | g :: rest =>
    if isBreak g.char then [g] :: lines rest
    else
      match lines rest with
      | [] => [[g]]
      | line :: more => (g :: line) :: more

/-- The lines from the first one on that holds more than the indentation, which it has lost, with
the line ends before it and the deepest indentation seen. `limit` is the indentation if it is known. -/
def skipEmpty? (limit : Option Nat) (deepest : Nat) : List Line → Option (List Char × Nat × List Line)
  | [] => some ([], deepest, [])
  | line :: more =>
    let spaces := (line.takeWhile (fun g => g.char = ' ')).length
    let depth := (limit.map (min spaces)).getD spaces
    let left := line.drop depth
    let deepest := max deepest depth
    if (limit.isNone || limit.any (depth < ·)) && starts (· = '\t') left then none
    else
      match left with
      | g :: _ =>
        if isBreak g.char then
          (skipEmpty? limit deepest more).map (fun (breaks, deepest, rest) => (g.char :: breaks, deepest, rest))
        else some ([], deepest, left :: more)
      | [] => some ([], deepest, [] :: more)

def column? : List Line → Option Nat
  | (g :: _) :: _ => some g.column
  | _ => none

/-- A block as it is read: how it is folded, the indentation of its lines, the line end before the
next line, those of the empty lines after it, and whether the line before was indented further. -/
structure Block where
  literal : Bool
  chomp : Chomp
  indent : Nat
  first : List Char
  more : List Char
  indented : Bool
  deriving Repr, Inhabited

namespace Block

def join (block : Block) (indented : Bool) : List Char :=
  if !block.literal && block.first = ['\n'] && !block.indented && !indented then
    (if block.more.isEmpty then [' '] else []) ++ block.more
  else block.first ++ block.more

def tail (block : Block) : List Char :=
  match block.chomp with
  | .strip => []
  | .clip => block.first
  | .keep => block.first ++ block.more

/-- The text of a block from a line on, and what follows the block. `steps` is the number of
lines. -/
def read? (steps : Nat) (block : Block) (left : List Line) : Option (List Char × List Glyph) :=
  match steps, left with
  | steps + 1, line :: rest =>
    if column? left = some block.indent then do
      let content := line.takeWhile (fun g => !isBreak g.char)
      let ended := (line.dropWhile (fun g => !isBreak g.char)).map Glyph.char
      let indented := starts isGap content
      let (more, _, after) ← skipEmpty? (some block.indent) 0 rest
      let (text, after) ← read? steps { block with first := ended, more, indented } after
      some (block.join indented ++ content.map Glyph.char ++ text, after)
    else some (block.tail, left.flatten)
  | _, _ => some (block.tail, left.flatten)

end Block

/-- The text of a block after its mark, and what follows it, where the enclosing block is indented
by `indent`, which is negative outside of all blocks. -/
def blockText? (literal : Bool) (indent : Int) (s : List Glyph) : Option (List Char × List Glyph) := do
  let (chomp, depth, rest) ← header? s
  let least := (indent + 1).toNat
  let given := if depth = 0 then none else some (if indent < 0 then depth else indent.toNat + depth)
  let (more, deepest, left) ← skipEmpty? given 0 (lines rest)
  let indent := given.getD (max (max deepest least) 1)
  Block.read? left.length ⟨literal, chomp, indent, [], more, false⟩ left

end BlockTemplates.Yaml
