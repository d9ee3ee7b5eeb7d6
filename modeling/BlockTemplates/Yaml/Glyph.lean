/-! The characters of a YAML text with their places. Every way to end a line but the two
separators of Unicode is one line feed here. -/

namespace BlockTemplates.Yaml

/-- A character, its line and column, and its distance from the start of the text. -/
structure Glyph where
  char : Char
  line : Nat
  column : Nat
  index : Nat
  deriving Repr, DecidableEq, Inhabited

def isAllowed (c : Char) : Bool :=
  let n := c.toNat
  n = 0x9 || n = 0xA || n = 0xD || (0x20 ≤ n && n ≤ 0x7E) || n = 0x85 || (0xA0 ≤ n && n ≤ 0xFFFD)
    || 0x10000 ≤ n

def place (line column index : Nat) : List Char → List Glyph
  | [] => []
  | '\r' :: '\n' :: rest => ⟨'\n', line, column, index⟩ :: place (line + 1) 0 (index + 2) rest
  | c :: rest =>
    if c = '\r' || c = '\n' || c = '\x85' then ⟨'\n', line, column, index⟩ :: place (line + 1) 0 (index + 1) rest
    else if c = '\u2028' || c = '\u2029' then ⟨c, line, column, index⟩ :: place (line + 1) 0 (index + 1) rest
    else ⟨c, line, column, index⟩ :: place line (column + 1) (index + 1) rest

/-- The characters of a text, of which a mark at the start is none. -/
def glyphs? (text : String) : Option (List Glyph) :=
  if text.toList.all isAllowed then
    match text.toList with
    | '\uFEFF' :: rest => some (place 0 0 0 rest)
    | s => some (place 0 0 0 s)
  else none

def isGap (c : Char) : Bool := c = ' ' || c = '\t'

def isBreak (c : Char) : Bool := c = '\n' || c = '\u2028' || c = '\u2029'

def isNameChar (c : Char) : Bool := c.isAlphanum || c = '-' || c = '_'

def starts (p : Char → Bool) : List Glyph → Bool
  | g :: _ => p g.char
  | [] => false

def endsWord : List Glyph → Bool
  | g :: _ => isGap g.char || isBreak g.char
  | [] => true

def endsLine : List Glyph → Bool
  | g :: _ => isBreak g.char
  | [] => true

/-- Whether a line starts with a character three times, as a word of its own. -/
def isMarker (c : Char) : List Glyph → Bool
  | x :: y :: z :: rest => x.column = 0 && x.char = c && y.char = c && z.char = c && endsWord rest
  | _ => false

def isDocumentMarker (s : List Glyph) : Bool := isMarker '-' s || isMarker '.' s

/-- A text after the rest of its line when nothing but a comment is left of it; the line end is
left behind. -/
def afterLine? (s : List Glyph) : Option (List Glyph) :=
  let s := s.dropWhile (fun g => isGap g.char)
  let s := if starts (· = '#') s then s.dropWhile (fun g => !isBreak g.char) else s
  if endsLine s then some s.tail else none

end BlockTemplates.Yaml
