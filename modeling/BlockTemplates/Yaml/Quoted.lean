import BlockTemplates.Json.Token
import BlockTemplates.Yaml.Folding

/-! Texts in quotes. Two single quotes stand for one where single quotes enclose the text; a
backslash begins an escape where double quotes do. -/

namespace BlockTemplates.Yaml

def shortEscape? : Char → Option Char
  | '0' => some '\x00'
  | 'a' => some '\x07'
  | 'b' => some '\x08'
  | 't' => some '\t'
  | '\t' => some '\t'
  | 'n' => some '\n'
  | 'v' => some '\x0b'
  | 'f' => some '\x0c'
  | 'r' => some '\r'
  | 'e' => some '\x1b'
  | ' ' => some ' '
  | '"' => some '"'
  | '/' => some '/'
  | '\\' => some '\\'
  | 'N' => some '\x85'
  | '_' => some '\xa0'
  | 'L' => some '\u2028'
  | 'P' => some '\u2029'
  | _ => none

def escapeWidth : Char → Nat
  | 'x' => 2
  | 'u' => 4
  | 'U' => 8
  | _ => 0

def codeChar? (digits : List Glyph) : Option Char := do
  let code ← digits.foldlM (fun n g => (Json.hexDigit? g.char).map (16 * n + ·)) 0
  if code.isValidChar then some (Char.ofNat code) else none

def escape? : List Glyph → Option (Char × List Glyph)
  | [] => none
  | g :: rest =>
    let width := escapeWidth g.char
    if width = 0 then (shortEscape? g.char).map (·, rest)
    else if rest.length < width then none
    else (codeChar? (rest.take width)).map (·, rest.drop width)

theorem escape?_shorter {s rest : List Glyph} {c : Char} (h : escape? s = some (c, rest)) :
    rest.length < s.length := by
  unfold escape? at h
  split at h
  · simp at h
  · simp only at h
    split at h
    · simp only [Option.map_eq_some_iff, Prod.mk.injEq] at h
      obtain ⟨_, _, _, rfl⟩ := h
      simp
    · split at h
      · simp at h
      · simp only [Option.map_eq_some_iff, Prod.mk.injEq] at h
        obtain ⟨_, _, _, rfl⟩ := h
        simp only [List.length_drop, List.length_cons]
        omega

def inFront (front : List Char) (read : List Char × List Glyph) : List Char × List Glyph :=
  (front ++ read.1, read.2)

def single? (gap : Gap) : List Glyph → Option (List Char × List Glyph)
  | [] => none
  | g :: rest =>
    if isDocumentMarker (g :: rest) then none
    else if isGap g.char || isBreak g.char then single? (gap.add g.char) rest
    else if g.char = '\'' then
      match rest with
      | h :: more =>
        if h.char = '\'' then (single? .empty more).map (inFront (gap.text ++ ['\'']))
        else some (gap.text, h :: more)
      | [] => some (gap.text, [])
    else (single? .empty rest).map (inFront (gap.text ++ [g.char]))

def double? (gap : Gap) (s : List Glyph) : Option (List Char × List Glyph) :=
  match s with
  | [] => none
  | g :: rest =>
    if isDocumentMarker (g :: rest) then none
    else if isGap g.char || isBreak g.char then double? (gap.add g.char) rest
    else if g.char = '"' then some (gap.text, rest)
    else if g.char = '\\' then
      if starts isBreak rest then (double? (.lines none []) rest.tail).map (inFront gap.text)
      else
        match found : escape? rest with
        | none => none
        | some (c, after) =>
          have := escape?_shorter found
          (double? .empty after).map (inFront (gap.text ++ [c]))
    else (double? .empty rest).map (inFront (gap.text ++ [g.char]))
termination_by s.length

end BlockTemplates.Yaml
