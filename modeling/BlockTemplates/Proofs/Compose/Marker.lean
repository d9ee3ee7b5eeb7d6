import BlockTemplates.Compose.Directive
import Mathlib.Logic.Function.Defs

/-! The grammar of composition markers. A spelling says what stands between the double braces and
which blanks stand around each part. Main statement: `recognize?_spelling`, the texts that are taken
for a marker are those that some spelling writes, and a text has at most one spelling. -/

namespace BlockTemplates

open Text (Trimmed isBlank)

/-- A run of blanks, which may be empty. -/
@[ext]
structure Blanks where
  run : List Char
  blank : ∀ c ∈ run, isBlank c = true

namespace Directive

def IsWord (c : Char) : Prop :=
  ('a' ≤ c ∧ c ≤ 'z') ∨ ('A' ≤ c ∧ c ≤ 'Z') ∨ ('0' ≤ c ∧ c ≤ '9') ∨ c = '_'

@[ext]
structure Identifier where
  chars : List Char
  nonempty : chars ≠ []
  words : ∀ c ∈ chars, IsWord c

/-- What stands between the braces of a marker, apart from the blanks next to them. -/
inductive Content where
  | blockEnd
  | blockStart (name : Identifier) (notEnd : name.chars ≠ endWord) (notExtend : name.chars ≠ extendWord)
  | extend (gap : Blanks) (apart : gap.run ≠ []) (base : Identifier)

namespace Content

def text : Content → List Char
  | blockEnd => endWord
  | blockStart name _ _ => name.chars
  | extend gap _ base => extendWord ++ (gap.run ++ base.chars)

def directive : Content → Directive
  | blockEnd => .blockEnd
  | blockStart name _ _ => .blockStart (String.ofList name.chars)
  | extend _ _ base => .extend (String.ofList base.chars)

end Content

structure Spelling where
  before : Blanks
  left : Blanks
  content : Content
  right : Blanks
  after : Blanks

namespace Spelling

def braced (spelling : Spelling) : List Char :=
  ['{', '{'] ++ (spelling.left.run ++ (spelling.content.text ++ spelling.right.run)) ++ ['}', '}']

def text (spelling : Spelling) : List Char :=
  spelling.before.run ++ (spelling.braced ++ spelling.after.run)

end Spelling

section Words

theorem isWordChar_iff {c : Char} : isWordChar c = true ↔ IsWord c := by
  unfold isWordChar IsWord Char.isAlphanum Char.isAlpha Char.isUpper Char.isLower Char.isDigit
  simp only [Bool.or_eq_true, Bool.and_eq_true, decide_eq_true_eq]
  constructor
  · rintro (((upper | lower) | digit) | rfl)
    · exact .inr (.inl upper)
    · exact .inl lower
    · exact .inr (.inr (.inl digit))
    · exact .inr (.inr (.inr rfl))
  · rintro (lower | upper | digit | rfl)
    · exact .inl (.inl (.inr lower))
    · exact .inl (.inl (.inl upper))
    · exact .inl (.inr digit)
    · exact .inr rfl

theorem isIdentifier_iff {name : List Char} :
    isIdentifier name = true ↔ name ≠ [] ∧ ∀ c ∈ name, IsWord c := by
  simp [isIdentifier, isWordChar_iff]

theorem isBlank_of_isWord {c : Char} (word : IsWord c) : isBlank c = false := by
  have visible : 33 ≤ c.toNat ∧ c.toNat < 127 := by
    rcases word with word | word | word | rfl
    case inr.inr.inr => decide
    all_goals
      simp only [Char.le_def, UInt32.le_iff_toNat_le, Char.toNat_val, Char.reduceToNat] at word
      omega
  simp [isBlank, Text.blankCodes]
  omega

theorem trimmed_of_word {word : List Char} (letters : ∀ c ∈ word, IsWord c) : Trimmed word :=
  ⟨fun c first => isBlank_of_isWord (letters c (List.mem_of_mem_head? first)),
    fun c last => isBlank_of_isWord (letters c (List.mem_of_mem_getLast? last))⟩

theorem isWord_of_mem_endWord : ∀ c ∈ endWord, IsWord c := by
  simp [endWord, IsWord]

theorem isWord_of_mem_extendWord : ∀ c ∈ extendWord, IsWord c := by
  simp [extendWord, IsWord]

end Words

namespace Identifier

theorem isIdentifier (name : Identifier) : isIdentifier name.chars = true :=
  isIdentifier_iff.mpr ⟨name.nonempty, name.words⟩

theorem trimmed (name : Identifier) : Trimmed name.chars := trimmed_of_word name.words

end Identifier

section Margins

variable {left right left' right' : Blanks} {body body' : List Char}

theorem leading_inj (first : ∀ c ∈ body.head?, isBlank c = false)
    (first' : ∀ c ∈ body'.head?, isBlank c = false) (same : left.run ++ body = left'.run ++ body') :
    left = left' ∧ body = body' := by
  have bodies : body = body' := by
    rw [← Text.trimStart_of_head? first, ← Text.trimStart_append left.blank, same,
      Text.trimStart_append left'.blank, Text.trimStart_of_head? first']
  subst bodies
  exact ⟨Blanks.ext (List.append_cancel_right same), rfl⟩

theorem margins_inj (trimmed : Trimmed body) (trimmed' : Trimmed body') (some : body ≠ [])
    (same : left.run ++ (body ++ right.run) = left'.run ++ (body' ++ right'.run)) :
    left = left' ∧ body = body' ∧ right = right' := by
  have bodies : body = body' := by
    rw [← Text.trim_append left.blank right.blank trimmed, same,
      Text.trim_append left'.blank right'.blank trimmed']
  subst bodies
  have first (right : List Char) : ∀ c ∈ (body ++ right).head?, isBlank c = false := by
    obtain ⟨c, more, rfl⟩ := List.exists_cons_of_ne_nil some
    exact trimmed.1
  obtain ⟨lefts, rest⟩ := leading_inj (first _) (first _) same
  exact ⟨lefts, rfl, Blanks.ext (List.append_cancel_left rest)⟩

end Margins

namespace Content

theorem text_ne_nil (content : Content) : content.text ≠ [] := by
  cases content with
  | blockEnd => exact List.cons_ne_nil _ _
  | blockStart name _ _ => exact name.nonempty
  | extend => exact List.cons_ne_nil _ _

theorem trimmed_text (content : Content) : Trimmed content.text := by
  cases content with
  | blockEnd => exact trimmed_of_word isWord_of_mem_endWord
  | blockStart name _ _ => exact name.trimmed
  | extend gap _ base =>
    refine ⟨(trimmed_of_word isWord_of_mem_extendWord).1, fun c last => ?_⟩
    rw [text, ← List.append_assoc, List.getLast?_append,
      List.getLast?_eq_some_getLast base.nonempty, Option.some_or,
      ← List.getLast?_eq_some_getLast base.nonempty] at last
    exact base.trimmed.2 c last

theorem not_isIdentifier_extend (gap : Blanks) (apart : gap.run ≠ []) (rest : List Char) :
    isIdentifier (extendWord ++ (gap.run ++ rest)) = false := by
  obtain ⟨c, more, same⟩ := List.exists_cons_of_ne_nil apart
  have blank : isBlank c = true := gap.blank c (by simp [same])
  refine Bool.eq_false_iff.mpr fun identifier => ?_
  have word : IsWord c := (isIdentifier_iff.mp identifier).2 c (by simp [same])
  exact Bool.noConfusion (blank.symm.trans (isBlank_of_isWord word))

theorem baseOf?_extend (gap : Blanks) (apart : gap.run ≠ []) (base : Identifier) :
    baseOf? (extendWord ++ (gap.run ++ base.chars)) = some base.chars := by
  have rest : Text.stripStart? extendWord (extendWord ++ (gap.run ++ base.chars)) =
      some (gap.run ++ base.chars) := Text.stripStart?_eq_some_iff.mpr rfl
  have name : Text.trimStart (gap.run ++ base.chars) = base.chars := by
    rw [Text.trimStart_append gap.blank]
    exact Text.trimStart_of_head? base.trimmed.1
  unfold baseOf?
  rw [rest, Option.bind_eq_bind, Option.bind_some, name]
  simp [apart, base.isIdentifier]

theorem exists_of_baseOf? {body name : List Char} (found : baseOf? body = some name) :
    ∃ (gap : Blanks) (_ : gap.run ≠ []) (base : Identifier),
      body = extendWord ++ (gap.run ++ base.chars) ∧ base.chars = name := by
  obtain ⟨rest, word, found⟩ := Option.bind_eq_some_iff.mp found
  have whole : rest.takeWhile isBlank ++ Text.trimStart rest = rest := List.takeWhile_append_dropWhile
  dsimp only at found
  split at found
  · cases found
  · next named =>
    obtain rfl := Option.some.inj found
    simp only [Bool.or_eq_true, decide_eq_true_eq, Bool.not_eq_true', not_or, Bool.not_eq_false] at named
    refine ⟨⟨rest.takeWhile isBlank, List.all_eq_true.mp List.all_takeWhile⟩, fun nothing => ?_,
      ⟨_, (isIdentifier_iff.mp named.2).1, (isIdentifier_iff.mp named.2).2⟩, ?_, rfl⟩
    · dsimp only at nothing
      rw [nothing, List.nil_append] at whole
      exact named.1 (congrArg List.length whole)
    · rw [whole]
      exact Text.stripStart?_eq_some_iff.mp word

theorem text_inj {content content' : Content} (same : content.text = content'.text) :
    content = content' := by
  cases content with
  | blockEnd =>
    cases content' with
    | blockEnd => rfl
    | blockStart _ notEnd _ => exact absurd same.symm notEnd
    | extend => cases same
  | blockStart name notEnd _ =>
    cases content' with
    | blockEnd => exact absurd same notEnd
    | blockStart =>
      obtain rfl := Identifier.ext same
      rfl
    | extend gap apart base =>
      have identifier := name.isIdentifier
      change name.chars = _ at same
      rw [same, text, not_isIdentifier_extend gap apart] at identifier
      cases identifier
  | extend gap apart base =>
    cases content' with
    | blockEnd => cases same
    | blockStart name _ _ =>
      have identifier := name.isIdentifier
      change _ = name.chars at same
      rw [← same, text, not_isIdentifier_extend gap apart] at identifier
      cases identifier
    | extend gap' apart' base' =>
      have inner : gap.run ++ base.chars = gap'.run ++ base'.chars := List.append_cancel_left same
      obtain ⟨rfl, bases⟩ := leading_inj base.trimmed.1 base'.trimmed.1 inner
      obtain rfl := Identifier.ext bases
      rfl

end Content

section Recognition

theorem trimmed_braced (spelling : Spelling) : Trimmed spelling.braced := by
  constructor
  · intro c first
    obtain rfl := Option.some.inj first
    rfl
  · intro c last
    rw [Spelling.braced, List.getLast?_append] at last
    obtain rfl := Option.some.inj last
    rfl

theorem body?_text (spelling : Spelling) : body? spelling.text = some spelling.content.text := by
  have outer : Text.trim spelling.text = spelling.braced :=
    Text.trim_append spelling.before.blank spelling.after.blank (trimmed_braced spelling)
  have inner : Text.trim (spelling.left.run ++ (spelling.content.text ++ spelling.right.run)) =
      spelling.content.text :=
    Text.trim_append spelling.left.blank spelling.right.blank spelling.content.trimmed_text
  have opened : Text.stripStart? ['{', '{'] spelling.braced =
      some (spelling.left.run ++ (spelling.content.text ++ spelling.right.run) ++ ['}', '}']) :=
    Text.stripStart?_eq_some_iff.mpr rfl
  have stripped : Text.stripEnd? ['}', '}']
      (spelling.left.run ++ (spelling.content.text ++ spelling.right.run) ++ ['}', '}']) =
      some (spelling.left.run ++ (spelling.content.text ++ spelling.right.run)) :=
    Text.stripEnd?_eq_some_iff.mpr rfl
  unfold body?
  rw [outer, opened, Option.bind_eq_bind, Option.bind_some, stripped,
    Option.bind_some, inner]

theorem exists_of_body? {value : List Char} {content : Content} (found : body? value = some content.text) :
    ∃ spelling : Spelling, spelling.text = value ∧ spelling.content = content := by
  obtain ⟨opened, start, rest⟩ := Option.bind_eq_some_iff.mp found
  obtain ⟨inner, stop, same⟩ := Option.bind_eq_some_iff.mp rest
  obtain ⟨before, after, outside, blank, blank'⟩ := Text.eq_trim_append value
  obtain ⟨left, right, inside, blankLeft, blankRight⟩ := Text.eq_trim_append inner
  refine ⟨⟨⟨before, blank⟩, ⟨left, blankLeft⟩, content, ⟨right, blankRight⟩, ⟨after, blank'⟩⟩, ?_, rfl⟩
  rw [Option.some.inj same] at inside
  rw [Text.stripStart?_eq_some_iff.mp start, Text.stripEnd?_eq_some_iff.mp stop, inside] at outside
  rw [outside]
  simp [Spelling.text, Spelling.braced]

theorem recognize?_of_body? {value : String} {content : Content}
    (found : body? value.toList = some content.text) : recognize? value = some content.directive := by
  unfold recognize?
  rw [found, Option.bind_eq_bind, Option.bind_some]
  cases content with
  | blockEnd => rfl
  | blockStart name notEnd notExtend =>
    simp [Content.text, Content.directive, notEnd, notExtend, name.isIdentifier]
  | extend gap apart base =>
    have notEnd : extendWord ++ (gap.run ++ base.chars) ≠ endWord := fun same => by cases same
    rw [Content.text, if_neg notEnd, Content.not_isIdentifier_extend gap apart, if_neg Bool.false_ne_true,
      Content.baseOf?_extend gap apart base]
    rfl

theorem exists_of_recognize? {value : String} {marker : Directive}
    (found : recognize? value = some marker) :
    ∃ content : Content, body? value.toList = some content.text ∧ content.directive = marker := by
  obtain ⟨body, inside, rest⟩ := Option.bind_eq_some_iff.mp found
  rw [inside]
  split at rest
  · next isEnd =>
    exact ⟨.blockEnd, congrArg some isEnd, Option.some.inj rest⟩
  · next notEnd =>
    split at rest
    · next identifier =>
      obtain ⟨nonempty, words⟩ := isIdentifier_iff.mp identifier
      split at rest
      · cases rest
      · next notExtend =>
        exact ⟨.blockStart ⟨body, nonempty, words⟩ notEnd notExtend, rfl, Option.some.inj rest⟩
    · obtain ⟨name, named, same⟩ := Option.map_eq_some_iff.mp rest
      obtain ⟨gap, apart, base, whole, rfl⟩ := Content.exists_of_baseOf? named
      exact ⟨.extend gap apart base, congrArg some whole, same⟩

theorem text_injective : Function.Injective Spelling.text := by
  intro spelling spelling' same
  have contents : spelling.content = spelling'.content := by
    have bodies := congrArg body? same
    rw [body?_text, body?_text] at bodies
    exact Content.text_inj (Option.some.inj bodies)
  obtain ⟨befores, braces, afters⟩ := margins_inj (trimmed_braced spelling) (trimmed_braced spelling')
    (List.cons_ne_nil _ _) same
  obtain ⟨lefts, -, rights⟩ := margins_inj spelling.content.trimmed_text spelling'.content.trimmed_text
    spelling.content.text_ne_nil
    (List.append_cancel_left (List.append_cancel_right braces))
  cases spelling
  cases spelling'
  simp_all

/-- A text is taken for a marker exactly when some spelling of that marker writes it, and for none
when there is no such spelling. No text has two spellings. -/
theorem recognize?_spelling :
    (∀ (value : String) (marker : Directive), recognize? value = some marker ↔
      ∃ spelling : Spelling, spelling.text = value.toList ∧ spelling.content.directive = marker) ∧
    (∀ value : String, recognize? value = none ↔ ∀ spelling : Spelling, spelling.text ≠ value.toList) ∧
    Function.Injective Spelling.text := by
  have read (value : String) (spelling : Spelling) (same : spelling.text = value.toList) :
      recognize? value = some spelling.content.directive :=
    recognize?_of_body? (same ▸ body?_text spelling)
  have written (value : String) (marker : Directive) (found : recognize? value = some marker) :
      ∃ spelling : Spelling, spelling.text = value.toList ∧ spelling.content.directive = marker := by
    obtain ⟨content, inside, rfl⟩ := exists_of_recognize? found
    obtain ⟨spelling, same, rfl⟩ := exists_of_body? inside
    exact ⟨spelling, same, rfl⟩
  refine ⟨fun value marker => ⟨written value marker, ?_⟩, fun value => ⟨?_, ?_⟩, text_injective⟩
  · rintro ⟨spelling, same, rfl⟩
    exact read value spelling same
  · intro other spelling same
    rw [read value spelling same] at other
    cases other
  · intro unwritten
    refine Option.eq_none_iff_forall_ne_some.mpr fun marker found => ?_
    obtain ⟨spelling, same, -⟩ := written value marker found
    exact unwritten spelling same

end Recognition

end Directive

end BlockTemplates
