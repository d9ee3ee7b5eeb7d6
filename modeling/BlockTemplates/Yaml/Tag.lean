import BlockTemplates.Json.Token
import BlockTemplates.Yaml.Glyph

/-! Tags and directives. A tag is a handle, which a directive may have given a meaning, and a
suffix, in which octets may be escaped; an escaped octet is kept as the character of that code. -/

namespace BlockTemplates.Yaml

def isTagChar (enclosed : Bool) (c : Char) : Bool :=
  isNameChar c || [';', '/', '?', ':', '@', '&', '=', '+', '$', '.', '!', '~', '*', '\'', '(', ')'].contains c
    || (enclosed && (c = ',' || c = '[' || c = ']'))

def octet? (a b : Glyph) : Option Nat := do
  let a ← Json.hexDigit? a.char
  let b ← Json.hexDigit? b.char
  some (16 * a + b)

def octetsAfter? (octet : Nat) : Option Nat :=
  if octet < 0x80 then some 0
  else if octet / 0x20 = 6 then some 1
  else if octet / 0x10 = 14 then some 2
  else if octet / 0x8 = 30 then some 3
  else none

/-- The characters of a tag at the start of a text, and what follows. `due` octets of a character
are still to come. -/
def tagChars? (enclosed : Bool) (due : Nat) : List Glyph → Option (List Char × List Glyph)
  | [] => if due = 0 then some ([], []) else none
  | g :: rest =>
    if g.char = '%' then
      match rest with
      | a :: b :: more => do
        let octet ← octet? a b
        let due ← if due = 0 then octetsAfter? octet else if octet / 0x40 = 2 then some (due - 1) else none
        let (text, after) ← tagChars? enclosed due more
        some (Char.ofNat octet :: text, after)
      | _ => none
    else if due ≠ 0 then none
    else if isTagChar enclosed g.char then
      (tagChars? enclosed 0 rest).map (fun (text, after) => (g.char :: text, after))
    else some ([], g :: rest)

def someTagChars? (enclosed : Bool) (s : List Glyph) : Option (String × List Glyph) := do
  let (text, rest) ← tagChars? enclosed 0 s
  if text.isEmpty then none else some (String.ofList text, rest)

def takeName (s : List Glyph) : String × List Glyph :=
  (String.ofList ((s.takeWhile (fun g => isNameChar g.char)).map Glyph.char),
    s.dropWhile (fun g => isNameChar g.char))

def tagParts? (s : List Glyph) : Option (String × String × List Glyph) :=
  if starts (· = '<') s then do
    let (suffix, rest) ← someTagChars? true s.tail
    if starts (· = '>') rest then some ("", suffix, rest.tail) else none
  else
    let (name, rest) := takeName s
    if starts (· = '!') rest then do
      let (suffix, rest) ← someTagChars? false rest.tail
      some ("!" ++ name ++ "!", suffix, rest)
    else do
      let (more, rest) ← tagChars? false 0 rest
      let suffix := name ++ String.ofList more
      some (if suffix = "" then ("", "!", rest) else ("!", suffix, rest))

/-- The handle and the suffix of a tag after its mark, and what follows: a blank, the end of the
line, or between brackets a comma. -/
def tag? (inFlow : Bool) (s : List Glyph) : Option (String × String × List Glyph) := do
  let (handle, suffix, rest) ← tagParts? s
  if endsWord rest || (inFlow && starts (· = ',') rest) then some (handle, suffix, rest) else none

inductive Directive where
  | version (major minor : Nat)
  | handle (name meaning : String)
  deriving Repr, DecidableEq, Inhabited

def number? (s : List Glyph) : Option (Nat × List Glyph) :=
  let digits := s.takeWhile (fun g => g.char.isDigit)
  if digits.isEmpty || 9 < digits.length then none
  else
    some (digits.foldl (fun n g => 10 * n + (g.char.toNat - '0'.toNat)) 0,
      s.dropWhile (fun g => g.char.isDigit))

def dropGaps (s : List Glyph) : List Glyph := s.dropWhile (fun g => isGap g.char)

def version? (s : List Glyph) : Option (Directive × List Glyph) := do
  let (major, rest) ← number? (dropGaps s)
  if !starts (· = '.') rest then none
  else
    let (minor, rest) ← number? rest.tail
    some (.version major minor, rest)

def handle? (s : List Glyph) : Option (Directive × List Glyph) := do
  let s := dropGaps s
  if !starts (· = '!') s then none
  else
    let (name, rest) := takeName s.tail
    let closed := starts (· = '!') rest
    if !closed && name ≠ "" then none
    else
      let rest := if closed then rest.tail else rest
      if !starts isGap rest then none
      else
        let (meaning, rest) ← someTagChars? true (dropGaps rest)
        if endsWord rest then some (.handle (if closed then "!" ++ name ++ "!" else "!") meaning, rest) else none

def directive? (s : List Glyph) : Option (Directive × List Glyph) := do
  let (name, rest) := takeName s
  if !endsWord rest then none
  else
    let (directive, rest) ←
      if name = "YAML" then version? rest else if name = "TAG" then handle? rest else none
    some (directive, ← afterLine? rest)

end BlockTemplates.Yaml
