import BlockTemplates.Decimal.Notation
import BlockTemplates.Json.Writer
import BlockTemplates.Proofs.Json.Document
import Mathlib.Data.List.Forall2
import Mathlib.Tactic.IntervalCases

/-! Written JSON text, read back token by token. Strings, punctuation and blanks are read as they
were written whatever follows them; a number needs something after it that ends it. Main statements:
`scans_quote` and `scans_natText`, for strings and numbers, and `scans_stringLines` and
`scans_memberLines`, for what is laid out over several lines. -/

namespace BlockTemplates.Json

/-! ### Strings -/

def pieceOf (c : Char) : Piece :=
  if c.toNat < 0x20 ∧ c ∉ ['\x08', '\x0c', '\n', '\r', '\t'] then .unit c.toNat else .char c

theorem hex4?_hexChar : ∀ n < 0x20, hex4? '0' '0' (hexChar (n / 16)) (hexChar (n % 16)) = some n := by
  decide

theorem pieces?_unit {a b c d : Char} {code : Nat} (digits : hex4? a b c d = some code) (s : List Char) :
    pieces? ('\\' :: 'u' :: a :: b :: c :: d :: s) =
      (pieces? s).map fun read => (.unit code :: read.1, read.2) := by
  rw [pieces?, digits]
  cases pieces? s <;> rfl

theorem pieces?_short {mark c : Char} (other : mark ≠ 'u') (escaped : shortEscape? mark = some c)
    (piece : pieceOf c = .char c) (s : List Char) :
    pieces? ('\\' :: mark :: s) = (pieces? s).map fun read => (pieceOf c :: read.1, read.2) := by
  rw [pieces?, escaped, piece]
  · cases pieces? s <;> rfl
  · intro _ _ _ _ _ same
    exact absurd same other

theorem pieces?_plain {c : Char} (quote : c ≠ '"') (backslash : c ≠ '\\') (shown : ¬ c.toNat < 0x20)
    (s : List Char) :
    pieces? (c :: s) = (pieces? s).map fun read => (.char c :: read.1, read.2) := by
  rw [pieces?, if_neg shown]
  · cases pieces? s <;> rfl
  · exact quote
  · intro _ _ _ _ _ same
    exact absurd same backslash
  · intro _ _ same
    exact absurd same backslash

theorem pieces?_escapeChar (c : Char) (s : List Char) :
    pieces? (escapeChar c ++ s) = (pieces? s).map fun read => (pieceOf c :: read.1, read.2) := by
  fun_cases escapeChar c
  case case8 control =>
    have piece : pieceOf c = .unit c.toNat := by simp_all [pieceOf]
    rw [piece]
    exact pieces?_unit (hex4?_hexChar c.toNat control) s
  case case9 quote backslash _ _ _ _ _ shown =>
    have piece : pieceOf c = .char c := by simp_all [pieceOf]
    rw [piece]
    exact pieces?_plain quote backslash shown s
  all_goals
    subst_vars
    exact pieces?_short (by decide) rfl rfl s

theorem pieces?_escaped (s rest : List Char) :
    pieces? (s.flatMap escapeChar ++ '"' :: rest) = some (s.map pieceOf, rest) := by
  induction s with
  | nil => rw [List.flatMap_nil, List.nil_append, pieces?, List.map_nil]
  | cons c s ih =>
    rw [List.flatMap_cons, List.append_assoc, pieces?_escapeChar, ih]
    rfl

/-- The code of a control character is no half of a surrogate pair. -/
theorem spell?_pieceOf (c : Char) (rest : List Piece) :
    spell? (pieceOf c :: rest) = (spell? rest).map (c :: ·) := by
  unfold pieceOf
  split
  · next control =>
    have leading : isLeading c.toNat = false := by simp [isLeading]; omega
    have trailing : isTrailing c.toNat = false := by simp [isTrailing]; omega
    cases rest with
    | nil => simp [spell?, leading, trailing]
    | cons next rest => cases next <;> simp [spell?, leading, trailing]
  · rfl

theorem spell?_map_pieceOf (s : List Char) : spell? (s.map pieceOf) = some s := by
  induction s with
  | nil => rfl
  | cons c s ih =>
    rw [List.map_cons, spell?_pieceOf, ih]
    rfl

/-! ### Numbers -/

def EndsNumber (text : List Char) : Prop :=
  ∀ c ∈ text.head?, (c.isDigit || c = '.' || c = 'e' || c = 'E') = false

theorem head?_toDigits {n : Nat} (positive : 0 < n) : (Nat.toDigits 10 n).head? ≠ some '0' := by
  induction n using Nat.strongRecOn with
  | _ n ih =>
    rw [Nat.toDigits_eq_if (by decide)]
    split
    · next small => interval_cases n <;> decide
    · next large =>
      have before := ih (n / 10) (by omega) (by omega)
      rw [List.head?_append_of_ne_nil]
      · exact before
      · exact Nat.toDigits_ne_nil

theorem isDigit_of_mem_natText {n : Nat} {c : Char} (found : c ∈ Nat.toDigits 10 n) : c.isDigit = true :=
  Nat.isDigit_of_mem_toDigits (by decide) (by decide) found

theorem whole?_toDigits (n : Nat) {rest : List Char} (ends : EndsNumber rest) :
    whole? (Nat.toDigits 10 n ++ rest) = some (Nat.toDigits 10 n, rest) := by
  have digital : ∀ c ∈ Nat.toDigits 10 n, c.isDigit = true := fun _ => isDigit_of_mem_natText
  have stop : rest.takeWhile Char.isDigit = [] ∧ rest.dropWhile Char.isDigit = rest := by
    cases rest with
    | nil => exact ⟨rfl, rfl⟩
    | cons c rest =>
      have other := ends c rfl
      simp only [Bool.or_eq_false_iff] at other
      simp [other]
  have filled : (Nat.toDigits 10 n).isEmpty = false := by simp [Nat.toDigits_ne_nil]
  unfold whole?
  rw [List.takeWhile_append_of_pos digital, List.dropWhile_append_of_pos digital, stop.1, stop.2,
    List.append_nil]
  rcases Nat.eq_zero_or_pos n with rfl | positive
  · rfl
  · simp [filled, head?_toDigits positive]

theorem fraction?_of_endsNumber {rest : List Char} (ends : EndsNumber rest) :
    fraction? rest = some (none, rest) := by
  unfold fraction?
  split
  · simpa using ends '.' rfl
  · rfl

theorem exponent?_of_endsNumber {rest : List Char} (ends : EndsNumber rest) :
    exponent? rest = some (none, rest) := by
  unfold exponent?
  split
  · simpa using ends 'e' rfl
  · simpa using ends 'E' rfl
  · rfl

theorem number?_toDigits (n : Nat) {rest : List Char} (ends : EndsNumber rest) :
    number? false (Nat.toDigits 10 n ++ rest) = some (⟨false, Nat.toDigits 10 n, none, none⟩, rest) := by
  unfold number?
  rw [whole?_toDigits n ends, Option.bind_eq_bind, Option.bind_some]
  dsimp only
  rw [fraction?_of_endsNumber ends, Option.bind_eq_bind, Option.bind_some]
  dsimp only
  rw [exponent?_of_endsNumber ends]
  rfl

theorem token?_digit {c : Char} (digit : c.isDigit = true) (rest : List Char) :
    token? (c :: rest) = (number? false (c :: rest)).map fun read => (.number read.1, read.2) := by
  rw [token?]
  case x_1 => exact List.cons_ne_nil c rest
  all_goals
    intro _ same
    obtain rfl := (List.cons.inj same).1
    exact absurd digit (by decide)

/-! ### Tokens -/

theorem tokens?_gap {c : Char} (gap : isGap c = true) (rest : List Char) :
    tokens? (c :: rest) = tokens? rest := by
  rw [tokens?, if_pos gap]

theorem tokens?_token {c : Char} {rest after : List Char} {token : Token} (solid : isGap c = false)
    (found : token? (c :: rest) = some (token, after)) :
    tokens? (c :: rest) = (tokens? after).map (token :: ·) := by
  rw [tokens?, if_neg (by simp [solid])]
  split
  · next missed =>
    rw [found] at missed
    cases missed
  · next token' after' found' =>
    rw [found] at found'
    obtain ⟨rfl, rfl⟩ := Prod.mk.inj (Option.some.inj found')
    rfl

/-- A text that is read as some tokens, whatever follows it. -/
def Scans (text : List Char) (read : List Token) : Prop :=
  ∀ rest, tokens? (text ++ rest) = (tokens? rest).map (read ++ ·)

/-- A text that is read as some tokens if a number could end there. -/
def ScansBefore (text : List Char) (read : List Token) : Prop :=
  ∀ rest, EndsNumber rest → tokens? (text ++ rest) = (tokens? rest).map (read ++ ·)

section Scans

variable {text text' : List Char} {read read' : List Token}

theorem map_append_map (read read' : List Token) (more : Option (List Token)) :
    (more.map (read' ++ ·)).map (read ++ ·) = more.map (read ++ read' ++ ·) := by
  cases more <;> simp

theorem Scans.nil : Scans [] [] := by
  intro rest
  cases found : tokens? rest <;> simp [found]

theorem Scans.append (first : Scans text read) (second : Scans text' read') :
    Scans (text ++ text') (read ++ read') := by
  intro rest
  rw [List.append_assoc, first, second, map_append_map]

theorem Scans.before (first : Scans text read) : ScansBefore text read := fun rest _ => first rest

theorem Scans.appendBefore (first : Scans text read) (second : ScansBefore text' read') :
    ScansBefore (text ++ text') (read ++ read') := by
  intro rest ends
  rw [List.append_assoc, first, second rest ends, map_append_map]

theorem ScansBefore.append (first : ScansBefore text read) (second : Scans text' read')
    (ends : ∀ rest, EndsNumber (text' ++ rest)) : Scans (text ++ text') (read ++ read') := by
  intro rest
  rw [List.append_assoc, first _ (ends rest), second, map_append_map]

theorem scans_gap {c : Char} (gap : isGap c = true) : Scans [c] [] := by
  intro rest
  rw [List.singleton_append, tokens?_gap gap]
  exact Scans.nil rest

theorem scans_token {c : Char} {token : Token} (solid : isGap c = false)
    (found : ∀ rest, token? (c :: text ++ rest) = some (token, rest)) : Scans (c :: text) [token] := by
  intro rest
  have whole := found rest
  rw [List.cons_append] at *
  rw [tokens?_token solid whole]
  rfl

theorem scans_quote (s : String) : Scans (quote s).toList [.string (some s)] := by
  unfold quote
  rw [String.toList_ofList, List.cons_append]
  apply scans_token (by decide)
  intro rest
  rw [List.cons_append, List.append_assoc, token?]
  change (pieces? (s.toList.flatMap escapeChar ++ '"' :: rest)).map _ = _
  rw [pieces?_escaped, Option.map_some]
  dsimp only
  rw [spell?_map_pieceOf, Option.map_some, String.ofList_toList]

theorem scans_natText (n : Nat) :
    ScansBefore (Decimal.natText n).toList [.number ⟨false, Nat.toDigits 10 n, none, none⟩] := by
  intro rest ends
  have read := number?_toDigits n ends
  unfold Decimal.natText
  rw [String.toList_ofList]
  cases spelled : Nat.toDigits 10 n with
  | nil => exact absurd spelled Nat.toDigits_ne_nil
  | cons c digits =>
    have digit : c.isDigit = true := isDigit_of_mem_natText (spelled ▸ List.mem_cons_self)
    have solid : isGap c = false := by
      simp only [isGap, Bool.or_eq_false_iff, decide_eq_false_iff_not]
      refine ⟨⟨⟨?_, ?_⟩, ?_⟩, ?_⟩ <;> rintro rfl <;> exact absurd digit (by decide)
    rw [spelled, List.cons_append] at read
    rw [List.cons_append, tokens?_token solid]
    · rfl
    · rw [token?_digit digit, read]
      rfl

theorem scans_newLine (level : Nat) : Scans (newLine level).toList [] := by
  have blanks (n : Nat) : Scans (List.replicate n ' ') [] := by
    induction n with
    | zero => exact .nil
    | succ n ih => exact (scans_gap (by decide)).append ih
  unfold newLine
  rw [String.toList_ofList]
  exact (scans_gap (by decide)).append (blanks (2 * level))

theorem ScansBefore.further {separator : List Char} (comma : Scans (',' :: separator) [.comma])
    {parts : List String} {reads : List (List Token)}
    (scanned : List.Forall₂ (fun part read => ScansBefore part.toList read) parts reads)
    (first : ScansBefore text read) :
    ScansBefore (text ++ (parts.map String.toList).flatMap (',' :: separator ++ ·))
      (read ++ reads.flatMap ([Token.comma] ++ ·)) := by
  induction scanned generalizing text read with
  | nil => simpa using first
  | @cons part next parts reads head _ ih =>
    have ends (rest : List Char) : EndsNumber (',' :: separator ++ rest) := by simp [EndsNumber]
    have more := ih ((first.append comma ends).appendBefore head)
    rw [List.map_cons, List.flatMap_cons, List.flatMap_cons]
    simpa only [List.append_assoc] using more

theorem scans_bracketed (level : Nat) {opening closing : String} {first last : Token}
    (opens : Scans opening.toList [first]) (closes : Scans closing.toList [last])
    {parts : List String} {reads : List (List Token)}
    (scanned : List.Forall₂ (fun part read => ScansBefore part.toList read) parts reads) :
    Scans (bracketed level opening closing parts).toList
      (first :: ([Token.comma].intercalate reads ++ [last])) := by
  unfold bracketed
  cases scanned with
  | nil =>
    rw [List.isEmpty_nil, if_pos rfl, String.toList_append]
    exact opens.append closes
  | @cons part read parts reads head tail =>
    have single : Scans [','] [.comma] := scans_token (by decide) fun _ => rfl
    have comma := single.append (scans_newLine (level + 1))
    have ends (rest : List Char) : EndsNumber ((newLine level).toList ++ closing.toList ++ rest) := by
      simp [EndsNumber, newLine]
    have inner := (opens.append (scans_newLine (level + 1))).appendBefore
      (ScansBefore.further comma tail head)
    have whole := inner.append ((scans_newLine level).append closes) ends
    have separator : ("," ++ newLine (level + 1)).toList = ',' :: (newLine (level + 1)).toList := by
      rw [String.toList_append]
      rfl
    rw [List.isEmpty_cons, if_neg (by decide), intercalate_cons]
    simp only [String.toList_append, String.toList_intercalate, List.map_cons, intercalate_cons]
    simp only [List.append_assoc] at whole ⊢
    exact whole

theorem scans_stringLines (level : Nat) (items : List String) :
    Scans (stringLines level items).toList (Json.array (items.map fun item => .string (some item))).tokens := by
  have opens : Scans "[".toList [.openArray] := scans_token (by decide) fun _ => rfl
  have closes : Scans "]".toList [.closeArray] := scans_token (by decide) fun _ => rfl
  unfold stringLines
  rw [tokens]
  apply scans_bracketed level opens closes
  induction items with
  | nil => exact .nil
  | cons item items ih => exact .cons (scans_quote item).before ih

theorem scans_memberLines (level : Nat) {members : List (String × String)} {documents : List (Text × Json)}
    (scanned : List.Forall₂ (fun member document =>
      document.1 = some member.1 ∧ ScansBefore member.2.toList document.2.tokens) members documents) :
    Scans (memberLines level members).toList (Json.object documents).tokens := by
  have opens : Scans "\x7b".toList [.openObject] := scans_token (by decide) fun _ => rfl
  have closes : Scans "\x7d".toList [.closeObject] := scans_token (by decide) fun _ => rfl
  have single : Scans [':'] [.colon] := scans_token (by decide) fun _ => rfl
  have blank : Scans [' '] [] := scans_gap (by decide)
  have colon : Scans ": ".toList [.colon] := single.append blank
  unfold memberLines
  rw [tokens]
  apply scans_bracketed level opens closes
  induction scanned with
  | nil => exact .nil
  | @cons member document _ _ head _ ih =>
    refine .cons ?_ ih
    rw [head.1, String.toList_append, String.toList_append]
    exact ((scans_quote member.1).append colon).appendBefore head.2

end Scans

end BlockTemplates.Json
