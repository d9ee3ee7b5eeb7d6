import BlockTemplates.Text.Blank
import BlockTemplates.Text.CaseTable

/-! Letter case. Mappings follow Unicode without regard to a language; a letter may become several
letters, and a sigma at the end of a word has a form of its own. -/

namespace BlockTemplates.Text

def upperChar (c : Char) : List Char :=
  if c.toNat < 0x80 then [c.toUpper]
  else
    match upperExpansions.lookup c.toNat with
    | some codes => codes.map Char.ofNat
    | none => [(shifted? upperShifts c).getD c]

def lowerChar (c : Char) : List Char :=
  if c.toNat < 0x80 then [c.toLower]
  else
    match lowerExpansions.lookup c.toNat with
    | some codes => codes.map Char.ofNat
    | none => [(shifted? lowerShifts c).getD c]

def isUpper (c : Char) : Bool := inRuns uppercaseRuns c

def isLower (c : Char) : Bool := inRuns lowercaseRuns c

/-- Whether the first character that is not case-ignorable is cased. -/
def meetsCased (s : List Char) : Bool :=
  match s.dropWhile (inRuns caseIgnorableRuns) with
  | [] => false
  | c :: _ => inRuns casedRuns c

def upper (s : List Char) : List Char := s.flatMap upperChar

/-- The lowercase form of the rest of a text after `before`, which is reversed. -/
def lowerFrom (before : List Char) : List Char → List Char
  | [] => []
  | c :: rest =>
    let form :=
      if c = 'Σ' then [if meetsCased before && !meetsCased rest then 'ς' else 'σ'] else lowerChar c
    form ++ lowerFrom (c :: before) rest

def lower (s : List Char) : List Char := lowerFrom [] s

def capitalize : List Char → List Char
  | [] => []
  | c :: rest => upperChar c ++ lower rest

def isPunctuation (c : Char) : Bool :=
  ('!' ≤ c && c ≤ '/') || (':' ≤ c && c ≤ '@') || ('[' ≤ c && c ≤ '\x60') || ('\x7b' ≤ c && c ≤ '~')

/-- The rest of a text with the first character of each word in uppercase form and the others in
lowercase form; `starts` when a word begins with the next character. -/
def titleFrom (starts : Bool) : List Char → List Char
  | [] => []
  | c :: rest =>
    if isPunctuation c || isBlank c then c :: titleFrom true rest
    else (if starts then upperChar c else lowerChar c) ++ titleFrom false rest

def title (s : List Char) : List Char := titleFrom true s

end BlockTemplates.Text
