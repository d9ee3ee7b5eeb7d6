import BlockTemplates.Proofs.Expr.StringLiteral
import BlockTemplates.Source.Quoted

/-! A string in quotes read without evaluating it. The reading is the text that the string stands
for when all of its escapes are common ones. Any other escape makes the reading score more than the
text, so that the two never spell the same marker. Main statement: `unquote?_of_literal?`. -/

namespace BlockTemplates.Source

open BlockTemplates.Expr (Item Spelling letterEscape? digitIn? digitsIn? numberIn? signedIn? Quotable isGap
  literal?)

/-- Whether a backslash before the character is an escape that both readings know. -/
def isCommonEscape (c : Char) : Bool := ['n', 't', '\\', '"', '\'', '/'].contains c

def commonEscapes : List Char → Bool
  | '\\' :: c :: rest => isCommonEscape c && commonEscapes rest
  | _ :: rest => commonEscapes rest
  | [] => true

/-- What a character counts for: blanks and control characters nothing, a backslash less. -/
def score (c : Char) : Int :=
  if c = '\\' then -1 else if c.toNat < 32 ∨ Text.isBlank c then 0 else 1

def total : List Char → Int
  | [] => 0
  | c :: text => score c + total text

theorem total_cons (c : Char) (text : List Char) : total (c :: text) = score c + total text := rfl

theorem total_append (first second : List Char) :
    total (first ++ second) = total first + total second := by
  induction first with
  | nil => exact (Int.zero_add _).symm
  | cons c first ih => rw [List.cons_append, total_cons, total_cons, ih, Int.add_assoc]

section Score

theorem score_backslash : score '\\' = -1 := rfl

theorem score_le_one (c : Char) : score c ≤ 1 := by
  unfold score
  split
  · decide
  · split <;> decide

theorem score_eq_one {c : Char} (low : 33 ≤ c.toNat) (high : c.toNat < 127) (apart : c ≠ '\\') :
    score c = 1 := by
  have visible : Text.isBlank c = false := by
    simp [Text.isBlank, Text.blankCodes]
    omega
  simp [score, apart, visible]
  omega

theorem score_of_control : ∀ code < 32, score (Char.ofNat code) = 0 := by
  decide

theorem total_eq_zero {text : List Char} (blank : ∀ c ∈ text, Text.isBlank c = true) : total text = 0 := by
  induction text with
  | nil => rfl
  | cons c text ih =>
    rw [List.forall_mem_cons] at blank
    have apart : c ≠ '\\' := by
      rintro rfl
      exact Bool.noConfusion blank.1
    rw [total_cons, ih blank.2]
    simp [score, apart, blank.1]

theorem total_eq_length {text : List Char} (visible : ∀ c ∈ text, score c = 1) :
    total text = text.length := by
  induction text with
  | nil => rfl
  | cons c text ih =>
    rw [List.forall_mem_cons] at visible
    rw [total_cons, visible.1, ih visible.2, List.length_cons]
    omega

theorem total_le_length (text : List Char) : total text ≤ text.length := by
  induction text with
  | nil => exact Int.le_refl 0
  | cons c text ih =>
    have := score_le_one c
    rw [total_cons, List.length_cons]
    omega

theorem score_of_isAlphanum {c : Char} (word : c.isAlphanum = true) : score c = 1 := by
  have slash : c ≠ '\\' := by
    rintro rfl
    cases word
  unfold Char.isAlphanum Char.isAlpha Char.isUpper Char.isLower Char.isDigit at word
  simp only [Bool.or_eq_true, Bool.and_eq_true, decide_eq_true_eq, ge_iff_le,
    UInt32.le_iff_toNat_le, Char.toNat_val, Char.reduceToNat] at word
  exact score_eq_one (by omega) (by omega) slash

theorem score_of_digitIn? {radix d : Nat} {c : Char} (digit : digitIn? radix c = some d) :
    score c = 1 := by
  have letter : c.isDigit ∨ ('a' ≤ c ∧ c ≤ 'z') ∨ ('A' ≤ c ∧ c ≤ 'Z') := by
    refine Decidable.byContradiction fun other => ?_
    simp only [not_or] at other
    simp [digitIn?, other] at digit
  apply score_of_isAlphanum
  unfold Char.isAlphanum Char.isAlpha Char.isUpper Char.isLower
  simp only [Bool.or_eq_true, Bool.and_eq_true, decide_eq_true_eq]
  rcases letter with digit' | lower | upper
  · exact .inr digit'
  · exact .inl (.inr lower)
  · exact .inl (.inl upper)

theorem score_of_digitsIn? {radix start n : Nat} {digits : List Char}
    (read : digitsIn? radix start digits = some n) : ∀ c ∈ digits, score c = 1 := by
  induction digits generalizing start with
  | nil => exact List.forall_mem_nil _
  | cons c digits ih =>
    obtain ⟨d, first, later⟩ := Option.bind_eq_some_iff.mp read
    exact List.forall_mem_cons.mpr ⟨score_of_digitIn? first, ih later⟩

theorem score_of_numberIn? {radix n : Nat} {digits : List Char} (read : numberIn? radix digits = some n) :
    digits ≠ [] ∧ ∀ c ∈ digits, score c = 1 := by
  unfold numberIn? at read
  split at read
  · cases read
  · next nonempty => exact ⟨by simpa using nonempty, score_of_digitsIn? read⟩

theorem score_of_signedIn? {radix n : Nat} {digits : List Char} (read : signedIn? radix digits = some n) :
    digits ≠ [] ∧ ∀ c ∈ digits, score c = 1 := by
  unfold signedIn? at read
  split at read
  · exact ⟨List.cons_ne_nil _ _, List.forall_mem_cons.mpr ⟨rfl, (score_of_numberIn? read).2⟩⟩
  · exact score_of_numberIn? read

end Score

section Reading

theorem unquoteBody?_cons {c : Char} (slash : c ≠ '\\') (quote : Char) (rest : List Char) :
    unquoteBody? quote (c :: rest) =
      if c = quote then none else (unquoteBody? quote rest).map (c :: ·) :=
  unquoteBody?.eq_4 quote c rest (fun same _ => slash same) fun _ _ same _ => slash same

theorem unquoteBody?_plain {quote c : Char} {rest static : List Char} (slash : c ≠ '\\')
    (read : unquoteBody? quote (c :: rest) = some static) :
    ∃ more, static = c :: more ∧ unquoteBody? quote rest = some more := by
  rw [unquoteBody?_cons slash] at read
  split at read
  · cases read
  · obtain ⟨more, found, rfl⟩ := Option.map_eq_some_iff.mp read
    exact ⟨more, rfl, found⟩

theorem unquoteBody?_escape {quote c : Char} {rest static : List Char}
    (read : unquoteBody? quote ('\\' :: c :: rest) = some static) :
    ∃ more, static = (if c = 'n' then '\n' else if c = 't' then '\t' else c) :: more ∧
      unquoteBody? quote rest = some more := by
  rw [unquoteBody?] at read
  obtain ⟨more, found, rfl⟩ := Option.map_eq_some_iff.mp read
  exact ⟨more, rfl, found⟩

theorem unquoteBody?_append {quote : Char} {run rest static : List Char}
    (visible : ∀ c ∈ run, score c = 1) (read : unquoteBody? quote (run ++ rest) = some static) :
    ∃ more, static = run ++ more ∧ unquoteBody? quote rest = some more := by
  induction run generalizing static with
  | nil => exact ⟨static, rfl, read⟩
  | cons c run ih =>
    rw [List.forall_mem_cons] at visible
    have apart : c ≠ '\\' := by
      rintro rfl
      exact absurd visible.1 (by decide)
    obtain ⟨later, rfl, read'⟩ := unquoteBody?_plain apart read
    obtain ⟨more, rfl, read''⟩ := ih visible.2 read'
    exact ⟨more, rfl, read''⟩

theorem commonEscapes_plain {c : Char} (apart : c ≠ '\\') (rest : List Char) :
    commonEscapes (c :: rest) = commonEscapes rest :=
  commonEscapes.eq_2 c rest fun _ _ same _ => apart same

theorem commonEscapes_escape {c : Char} (other : isCommonEscape c = false) (rest : List Char) :
    commonEscapes ('\\' :: c :: rest) = false := by
  rw [commonEscapes, other, Bool.false_and]

theorem common_cases {c : Char} (common : isCommonEscape c = true) :
    c = 'n' ∨ c = 't' ∨ c = '\\' ∨ c = '"' ∨ c = '\'' ∨ c = '/' := by
  simpa [isCommonEscape] using common

theorem isCommonEscape_of_unknown {c : Char} (unknown : letterEscape? c = none) :
    isCommonEscape c = false := by
  refine Bool.eq_false_iff.mpr fun common => ?_
  rcases common_cases common with rfl | rfl | rfl | rfl | rfl | rfl <;> cases unknown

theorem isCommonEscape_of_octal {c : Char} {d : Nat} (digit : digitIn? 8 c = some d) :
    isCommonEscape c = false := by
  refine Bool.eq_false_iff.mpr fun common => ?_
  rcases common_cases common with rfl | rfl | rfl | rfl | rfl | rfl <;> cases digit

theorem resolved_of_other {c : Char} (other : isCommonEscape c = false) :
    (if c = 'n' then '\n' else if c = 't' then '\t' else c) = c := by
  rw [if_neg, if_neg]
  · rintro rfl
    cases other
  · rintro rfl
    cases other

theorem digitIn?_lt {radix d : Nat} {c : Char} (digit : digitIn? radix c = some d) : d < radix := by
  unfold digitIn? at digit
  extract_lets value at digit
  split at digit
  · next low => rwa [← Option.some.inj digit]
  · cases digit

/-- A code of at least one digit scores more than the one character that it can stand for. -/
theorem total_lt_total_cons {mark : Char} {digits item : List Char} (visible : score mark = 1)
    (nonempty : digits ≠ []) (visible' : ∀ c ∈ digits, score c = 1) (short : item.length ≤ 1) :
    total item < total (mark :: digits) := by
  have some' := List.length_pos_iff.mpr nonempty
  have least := total_le_length item
  rw [total_cons, visible, total_eq_length visible']
  omega

theorem static_of_item {quote : Char} {written item rest static : List Char}
    (first : Item written item) (read : unquoteBody? quote (written ++ rest) = some static) :
    ∃ part more, static = part ++ more ∧ unquoteBody? quote rest = some more ∧
      (part = item ∧ commonEscapes (written ++ rest) = commonEscapes rest ∨
        total item < total part ∧ commonEscapes (written ++ rest) = false) := by
  cases first with
  | plain c apart =>
    obtain ⟨more, rfl, read'⟩ := unquoteBody?_plain apart read
    exact ⟨[c], more, rfl, read', .inl ⟨rfl, commonEscapes_plain apart rest⟩⟩
  | letter a c known =>
    obtain ⟨more, rfl, read'⟩ := unquoteBody?_escape read
    refine ⟨[_], more, rfl, read', ?_⟩
    unfold letterEscape? at known
    split at known
    case h_10 => cases known
    all_goals
      obtain rfl := Option.some.inj known
      first
      | exact .inl ⟨rfl, rfl⟩
      | exact .inr ⟨by decide, rfl⟩
  | unknown a unknown =>
    have other := isCommonEscape_of_unknown unknown
    obtain ⟨more, rfl, read'⟩ := unquoteBody?_escape read
    rw [resolved_of_other other]
    refine ⟨[a], more, rfl, read', .inr ⟨?_, commonEscapes_escape other rest⟩⟩
    rw [total_cons, score_backslash]
    omega
  | unicode digits code text code' short =>
    obtain ⟨nonempty, visible⟩ := score_of_signedIn? code'
    obtain ⟨later, rfl, read'⟩ := unquoteBody?_escape read
    obtain ⟨more, rfl, read''⟩ := unquoteBody?_append visible read'
    exact ⟨'u' :: digits, more, rfl, read'',
      .inr ⟨total_lt_total_cons rfl nonempty visible short, rfl⟩⟩
  | hexadecimal digits code code' =>
    obtain ⟨nonempty, visible⟩ := score_of_signedIn? code'
    obtain ⟨later, rfl, read'⟩ := unquoteBody?_escape read
    obtain ⟨more, rfl, read''⟩ := unquoteBody?_append visible read'
    exact ⟨'x' :: digits, more, rfl, read'',
      .inr ⟨total_lt_total_cons rfl nonempty visible (Nat.le_refl 1), rfl⟩⟩
  | octal digits code code' =>
    obtain ⟨nonempty, visible⟩ := score_of_numberIn? code'
    cases digits with
    | nil => exact absurd rfl nonempty
    | cons a further =>
      rw [List.forall_mem_cons] at visible
      obtain ⟨d, digit, later⟩ := Option.bind_eq_some_iff.mp code'
      have other := isCommonEscape_of_octal digit
      obtain ⟨tail, rfl, read'⟩ := unquoteBody?_escape read
      obtain ⟨more, rfl, read''⟩ := unquoteBody?_append visible.2 read'
      rw [resolved_of_other other]
      refine ⟨a :: further, more, rfl, read'', .inr ⟨?_, commonEscapes_escape other _⟩⟩
      -- A single digit scores one, but then it stands for a control character.
      cases further with
      | nil =>
        obtain rfl := Option.some.inj later
        have low := digitIn?_lt digit
        rw [total_cons, total_cons, score_of_control _ (by omega), visible.1]
        decide
      | cons b further =>
        exact total_lt_total_cons visible.1 (List.cons_ne_nil _ _) visible.2 (Nat.le_refl 1)

/-- The reading of a body is its text if all escapes are common ones, and else it scores more. -/
theorem static_of_spelling {quote : Char} {body text static : List Char} (spelled : Spelling body text)
    (read : unquoteBody? quote body = some static) :
    static = text ∧ commonEscapes body = true ∨
      total text < total static ∧ commonEscapes body = false := by
  induction spelled generalizing static with
  | nil =>
    obtain rfl := Option.some.inj read
    exact .inl ⟨rfl, rfl⟩
  | item first later ih =>
    obtain ⟨part, more, rfl, read', parts⟩ := static_of_item first read
    rw [total_append, total_append]
    rcases parts with ⟨rfl, common⟩ | ⟨heavier, common⟩
    · rcases ih read' with ⟨rfl, common'⟩ | ⟨heavier, common'⟩
      · exact .inl ⟨rfl, common.trans common'⟩
      · exact .inr ⟨by omega, common.trans common'⟩
    · rcases ih read' with ⟨rfl, common'⟩ | ⟨heavier', common'⟩
      · exact .inr ⟨by omega, common⟩
      · exact .inr ⟨by omega, common⟩

theorem unquoteBody?_of_quotable {quote : Char} {body : List Char} (quotable : Quotable quote body) :
    ∃ static, unquoteBody? quote body = some static := by
  induction quotable with
  | nil => exact ⟨[], rfl⟩
  | escape c _ ih =>
    obtain ⟨static, read⟩ := ih
    exact ⟨_, by rw [unquoteBody?, read, Option.map_some]⟩
  | plain c slash apart _ ih =>
    obtain ⟨static, read⟩ := ih
    refine ⟨c :: static, ?_⟩
    rw [unquoteBody?_cons slash, if_neg apart, read, Option.map_some]

theorem commonEscapes_append {quote : Char} {body : List Char} (quotable : Quotable quote body)
    (rest : List Char) : commonEscapes (body ++ rest) = (commonEscapes body && commonEscapes rest) := by
  induction quotable with
  | nil => rfl
  | escape c _ ih => rw [List.cons_append, List.cons_append, commonEscapes, commonEscapes, ih, Bool.and_assoc]
  | plain c slash _ _ ih =>
    rw [List.cons_append, commonEscapes_plain slash, commonEscapes_plain slash, ih]

end Reading

section Expression

theorem isBlank_of_isGap {c : Char} (gap : isGap c = true) : Text.isBlank c = true := by
  simp only [isGap, Bool.or_eq_true, decide_eq_true_eq] at gap
  rcases gap with (((rfl | rfl) | rfl) | rfl) | rfl <;> rfl

theorem commonEscapes_of_isGap {run : List Char} (gaps : ∀ c ∈ run, isGap c = true)
    (rest : List Char) : commonEscapes (run ++ rest) = commonEscapes rest := by
  induction run with
  | nil => rfl
  | cons c run ih =>
    rw [List.forall_mem_cons] at gaps
    have slash : c ≠ '\\' := by
      rintro rfl
      exact Bool.noConfusion gaps.1
    rw [List.cons_append, commonEscapes_plain slash, ih gaps.2]

theorem unquote?_eq {expression : String} {before body after static : List Char} {quote : Char}
    (same : expression.toList = before ++ (quote :: (body ++ [quote]) ++ after))
    (blank : ∀ c ∈ before, Text.isBlank c = true) (blank' : ∀ c ∈ after, Text.isBlank c = true)
    (quoted : quote = '"' ∨ quote = '\'') (read : unquoteBody? quote body = some static) :
    unquote? expression = some (String.ofList static) := by
  have visible : Text.isBlank quote = false := by
    rcases quoted with rfl | rfl <;> rfl
  have trimmed : Text.Trimmed (quote :: (body ++ [quote])) := by
    constructor
    · simpa using visible
    · simpa [List.getLast?_cons] using visible
  have inner : Text.stripEnd? [quote] (body ++ [quote]) = some body :=
    Text.stripEnd?_eq_some_iff.mpr rfl
  unfold unquote?
  rw [same, Text.trim_append blank blank' trimmed]
  dsimp only
  rw [if_pos quoted, inner, Option.bind_some, read, Option.map_some]

theorem unquote?_of_literal? {expression text : String} (literal : literal? expression = some text) :
    ∃ static, unquote? expression = some static ∧
      (static = text ∧ commonEscapes expression.toList = true ∨
        total text.toList < total static.toList ∧ commonEscapes expression.toList = false) := by
  obtain ⟨before, quote, body, after, same, gaps, gaps', quoted, quotable, spelled⟩ :=
    Expr.scan_eq_text (Expr.literal?_eq_some_iff.mp literal)
  obtain ⟨static, read⟩ := unquoteBody?_of_quotable quotable
  have slash : quote ≠ '\\' := by
    rcases quoted with rfl | rfl <;> decide
  have escapes : commonEscapes expression.toList = commonEscapes body := by
    rw [same, commonEscapes_of_isGap gaps, List.cons_append, commonEscapes_plain slash,
      List.append_assoc, commonEscapes_append quotable, List.singleton_append,
      commonEscapes_plain slash, ← List.append_nil after, commonEscapes_of_isGap gaps', commonEscapes,
      Bool.and_true]
  refine ⟨String.ofList static, unquote?_eq same (fun c member => isBlank_of_isGap (gaps c member))
    (fun c member => isBlank_of_isGap (gaps' c member)) quoted read, ?_⟩
  rw [escapes, String.toList_ofList]
  rcases static_of_spelling spelled read with ⟨rfl, common⟩ | heavier
  · exact .inl ⟨String.ofList_toList, common⟩
  · exact .inr heavier

end Expression

end BlockTemplates.Source
