/-! Characters spelled by bytes in UTF-8. -/

namespace BlockTemplates.Text

/-- A character of which further bytes are missing, and the bounds of the next one. -/
structure OpenCharacter where
  code : Nat
  missing : Nat
  low : Nat
  high : Nat

namespace OpenCharacter

def start? (b : Nat) : Option OpenCharacter :=
  if 0xC2 ≤ b ∧ b ≤ 0xDF then some ⟨b - 0xC0, 1, 0x80, 0xBF⟩
  else if 0xE0 ≤ b ∧ b ≤ 0xEF then
    some ⟨b - 0xE0, 2, if b = 0xE0 then 0xA0 else 0x80, if b = 0xED then 0x9F else 0xBF⟩
  else if 0xF0 ≤ b ∧ b ≤ 0xF4 then
    some ⟨b - 0xF0, 3, if b = 0xF0 then 0x90 else 0x80, if b = 0xF4 then 0x8F else 0xBF⟩
  else none

def extend (character : OpenCharacter) (b : Nat) : OpenCharacter :=
  ⟨character.code * 0x40 + (b - 0x80), character.missing - 1, 0x80, 0xBF⟩

end OpenCharacter

/-- The characters that bytes spell after those of an open one. There is none for a stretch of bytes that
cannot become a character. -/
def charactersFrom (character : Option OpenCharacter) : List Nat → List (Option Char)
  | [] => if character.isSome then [none] else []
  | b :: rest =>
    let fresh (_ : Unit) : List (Option Char) :=
      if b < 0x80 then some (Char.ofNat b) :: charactersFrom none rest
      else
        match OpenCharacter.start? b with
        | some character => charactersFrom (some character) rest
        | none => none :: charactersFrom none rest
    match character with
    | none => fresh ()
    | some character =>
      if character.low ≤ b ∧ b ≤ character.high then
        let further := character.extend b
        if further.missing = 0 then some (Char.ofNat further.code) :: charactersFrom none rest
        else charactersFrom (some further) rest
      else none :: fresh ()

def characters (codes : List Nat) : List (Option Char) := charactersFrom none codes

def ofUtf8? (codes : List Nat) : Option String := ((characters codes).mapM id).map String.ofList

def ofUtf8 (codes : List Nat) : String := String.ofList ((characters codes).map (·.getD '\uFFFD'))

end BlockTemplates.Text
