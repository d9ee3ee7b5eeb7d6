import BlockTemplates.Expr.Eval

/-! Expressions that are one string. Its body is a sequence of plain characters and escapes, and
its value is the text that they stand for. Main statements: `literal?_eq_some_iff`, where the body of
such a string is, and `evaluate_literal`, that its text is all that it evaluates to. -/

namespace BlockTemplates.Expr

/-- A character or an escape of a string body, and the text that it stands for. The first half of a
surrogate pair stands for nothing of its own. -/
inductive Item : List Char → List Char → Prop
  | plain (c : Char) (apart : c ≠ '\\') : Item [c] [c]
  | letter (a c : Char) (known : letterEscape? a = some c) : Item ['\\', a] [c]
  | unknown (a : Char) (unknown : letterEscape? a = none) : Item ['\\', a] ['\\', a]
  | unicode (digits : List Char) (code : Nat) (text : List Char)
      (read : signedIn? 16 digits = some code) (short : text.length ≤ 1) :
      Item ('\\' :: 'u' :: digits) text
  | hexadecimal (digits : List Char) (code : Nat) (read : signedIn? 16 digits = some code) :
      Item ('\\' :: 'x' :: digits) [Char.ofNat code]
  | octal (digits : List Char) (code : Nat) (read : numberIn? 8 digits = some code) :
      Item ('\\' :: digits) [Char.ofNat code]

inductive Spelling : List Char → List Char → Prop
  | nil : Spelling [] []
  | item {written item rest text : List Char} (first : Item written item)
      (later : Spelling rest text) : Spelling (written ++ rest) (item ++ text)

/-- A text that stands between quotes: none of them is in it but after a backslash, and no
backslash is at its end. -/
inductive Quotable (quote : Char) : List Char → Prop
  | nil : Quotable quote []
  | escape (c : Char) {rest : List Char} (later : Quotable quote rest) :
      Quotable quote ('\\' :: c :: rest)
  | plain (c : Char) {rest : List Char} (slash : c ≠ '\\') (apart : c ≠ quote)
      (later : Quotable quote rest) : Quotable quote (c :: rest)

def literal? (source : String) : Option String :=
  match scan source.toList with
  | [.text text] => some text
  | _ => none

def ReadsItem (body text : List Char) : Prop :=
  ∃ written item rest more pending, Item written item ∧ written ≠ [] ∧ body = written ++ rest ∧
    text = item ++ more ∧ unescape? pending rest = some more

private theorem readsItem_map {written rest text : List Char} {c : Char} (item : Item written [c])
    (nonempty : written ≠ []) (read : (unescape? none rest).map (c :: ·) = some text) :
    ReadsItem (written ++ rest) text := by
  obtain ⟨more, found, rfl⟩ := Option.map_eq_some_iff.mp read
  exact ⟨written, [c], rest, more, none, item, nonempty, rfl, rfl, found⟩

private theorem readsItem_push {pending : Option Nat} {written rest text : List Char} {c : Char}
    (item : Item written [c]) (nonempty : written ≠ [])
    (read : (if pending.isSome then none else (unescape? none rest).map (c :: ·)) = some text) :
    ReadsItem (written ++ rest) text := by
  split at read
  · cases read
  · exact readsItem_map item nonempty read

private theorem readsItem_unicode {pending : Option Nat} {digits rest text : List Char} {code : Nat}
    (digitsRead : signedIn? 16 digits = some code)
    (read : (match pending with
      | none =>
        if isSurrogate code then unescape? (some code) rest
        else if pending.isSome then none else (unescape? none rest).map (Char.ofNat code :: ·)
      | some leading =>
        if isSurrogate code then
          (joinSurrogates? leading code).bind fun c => (unescape? none rest).map (c :: ·)
        else none) = some text) :
    ReadsItem ('\\' :: 'u' :: digits ++ rest) text := by
  have item (c : Char) : Item ('\\' :: 'u' :: digits) [c] :=
    .unicode digits code [c] digitsRead (Nat.le_refl 1)
  cases pending with
  | none =>
    dsimp only at read
    split at read
    · exact ⟨_, [], rest, text, some code, .unicode digits code [] digitsRead (Nat.zero_le 1),
        List.cons_ne_nil _ _, rfl, rfl, read⟩
    · exact readsItem_push (item _) (List.cons_ne_nil _ _) read
  | some leading =>
    dsimp only at read
    split at read
    · obtain ⟨c, -, read⟩ := Option.bind_eq_some_iff.mp read
      exact readsItem_map (item c) (List.cons_ne_nil _ _) read
    · cases read

private theorem readsItem_other {pending : Option Nat} {a : Char} {rest text : List Char}
    (unknown : letterEscape? a = none)
    (read : (if isOctal a then
        match numberIn? 8 (a :: (rest.take 2).takeWhile isOctal) with
        | none => none
        | some code =>
          if code < 256 then
            if pending.isSome then none
            else (unescape? none (rest.drop ((rest.take 2).takeWhile isOctal).length)).map
              (Char.ofNat code :: ·)
          else none
      else if pending.isSome then none
      else ((unescape? none rest).map (a :: ·)).map ('\\' :: ·)) = some text) :
    ReadsItem ('\\' :: a :: rest) text := by
  split at read
  · have front : (rest.take 2).takeWhile isOctal <+: rest :=
      (List.takeWhile_prefix _).trans (List.take_prefix 2 rest)
    have whole := List.prefix_iff_eq_append.mp front
    split at read
    · cases read
    · next code digits =>
      split at read
      · have begun := readsItem_push (.octal _ code digits) (List.cons_ne_nil _ _) read
        rwa [List.cons_append, List.cons_append, whole] at begun
      · cases read
  · split at read
    · cases read
    · obtain ⟨later, mapped, rfl⟩ := Option.map_eq_some_iff.mp read
      obtain ⟨more, found, rfl⟩ := Option.map_eq_some_iff.mp mapped
      exact ⟨['\\', a], ['\\', a], rest, more, none, .unknown a unknown, List.cons_ne_nil _ _, rfl,
        rfl, found⟩

/-- A body that can be read is empty or begins with an item. -/
theorem readsItem_of_unescape? {pending : Option Nat} {body text : List Char}
    (read : unescape? pending body = some text) : (body = [] ∧ text = []) ∨ ReadsItem body text := by
  rw [unescape?.eq_def] at read
  simp only at read
  split at read
  case h_1 =>
    split at read
    · cases read
    · exact .inl ⟨rfl, (Option.some.inj read).symm⟩
  case h_2 a b c d rest =>
    split at read
    · cases read
    · next code digits => exact .inr (readsItem_unicode digits read)
  case h_3 => cases read
  case h_4 a b rest =>
    split at read
    · cases read
    · next code digits =>
      exact .inr (readsItem_push (.hexadecimal [a, b] code digits) (List.cons_ne_nil _ _) read)
  case h_5 => cases read
  case h_6 a rest _ _ _ _ =>
    split at read
    · next c known => exact .inr (readsItem_push (.letter a c known) (List.cons_ne_nil _ _) read)
    · next unknown => exact .inr (readsItem_other unknown read)
  case h_7 => cases read
  case h_8 c rest _ _ _ _ several alone =>
    have apart : c ≠ '\\' := by
      rintro rfl
      cases rest with
      | nil => exact alone rfl rfl
      | cons a rest => exact several a rest rfl rfl
    exact .inr (readsItem_push (.plain c apart) (List.cons_ne_nil _ _) read)

theorem spelling_of_unescape? {pending : Option Nat} {body text : List Char}
    (read : unescape? pending body = some text) : Spelling body text := by
  obtain ⟨rfl, rfl⟩ | ⟨written, item, rest, more, pending', first, nonempty, rfl, rfl, later⟩ :=
    readsItem_of_unescape? read
  · exact .nil
  · have shorter : rest.length < (written ++ rest).length := by
      have := List.length_pos_iff.mpr nonempty
      rw [List.length_append]
      omega
    exact .item first (spelling_of_unescape? later)
termination_by body.length

theorem stringBody?_eq_some {quote : Char} {rest body after : List Char}
    (found : stringBody? quote rest = some (body, after)) :
    rest = body ++ quote :: after ∧ Quotable quote body := by
  fun_induction stringBody? quote rest generalizing body after with
  | case1 => cases found
  | case2 => cases found
  | case3 c rest ih =>
    obtain ⟨⟨body', after'⟩, found', same⟩ := Option.map_eq_some_iff.mp found
    obtain ⟨rfl, rfl⟩ := Prod.mk.inj same
    obtain ⟨rfl, quotable⟩ := ih found'
    exact ⟨rfl, .escape c quotable⟩
  | case4 =>
    obtain ⟨rfl, rfl⟩ := Prod.mk.inj (Option.some.inj found)
    exact ⟨rfl, .nil⟩
  | case5 c rest alone escaped apart ih =>
    obtain ⟨⟨body', after'⟩, found', same⟩ := Option.map_eq_some_iff.mp found
    obtain ⟨rfl, rfl⟩ := Prod.mk.inj same
    obtain ⟨rfl, quotable⟩ := ih found'
    have slash : c ≠ '\\' := by
      rintro rfl
      cases body' with
      | nil => exact escaped _ _ rfl rfl
      | cons d body' => exact escaped _ _ rfl rfl
    exact ⟨rfl, .plain c slash apart quotable⟩

theorem stringToken_eq_text {quote : Char} {rest after : List Char} {text : String}
    (token : stringToken quote rest = (.text text, after)) :
    ∃ body, stringBody? quote rest = some (body, after) ∧ unescape? none body = some text.toList := by
  unfold stringToken at token
  split at token
  · cases token
  · next body after' found =>
    split at token
    · next chars read =>
      obtain ⟨same, rfl⟩ := Prod.mk.inj token
      obtain rfl := Token.text.inj same
      exact ⟨body, found, by rw [read, String.toList_ofList]⟩
    · cases token

theorem nextToken_eq_text {c : Char} {rest after : List Char} {text : String}
    (token : nextToken c rest = (.text text, after)) :
    (c = '"' ∨ c = '\'') ∧ stringToken c rest = (.text text, after) := by
  unfold nextToken at token
  split at token
  · cases token
  · split at token
    · next quoted => exact ⟨quoted, token⟩
    · split at token
      · split at token <;> cases token
      · split at token <;> cases token

theorem isGap_of_scan_eq_nil {source : List Char} (nothing : scan source = []) :
    ∀ c ∈ source, isGap c = true := by
  fun_induction scan source with
  | case1 => exact List.forall_mem_nil _
  | case2 c rest gap ih => exact List.forall_mem_cons.mpr ⟨gap, ih nothing⟩
  | case3 => cases nothing

/-- Where the string is in a text whose only token it is. -/
theorem scan_eq_text {source : List Char} {text : String} (token : scan source = [.text text]) :
    ∃ before quote body after, source = before ++ (quote :: (body ++ [quote]) ++ after) ∧
      (∀ c ∈ before, isGap c = true) ∧ (∀ c ∈ after, isGap c = true) ∧
      (quote = '"' ∨ quote = '\'') ∧ Quotable quote body ∧ Spelling body text.toList := by
  fun_induction scan source with
  | case1 => cases token
  | case2 c rest gap ih =>
    obtain ⟨before, quote, body, after, rfl, blank, others⟩ := ih token
    exact ⟨c :: before, quote, body, after, rfl, List.forall_mem_cons.mpr ⟨gap, blank⟩, others⟩
  | case3 c rest gap _ ih =>
    obtain ⟨first, last⟩ := List.cons.inj token
    obtain ⟨quoted, string⟩ := nextToken_eq_text (Prod.ext first rfl)
    obtain ⟨body, found, read⟩ := stringToken_eq_text string
    obtain ⟨same, quotable⟩ := stringBody?_eq_some found
    refine ⟨[], c, body, _, ?_, List.forall_mem_nil _, isGap_of_scan_eq_nil last, quoted, quotable,
      spelling_of_unescape? read⟩
    rw [List.nil_append, List.cons_append, List.append_assoc, List.singleton_append, ← same]

theorem literal?_eq_some_iff {source text : String} :
    literal? source = some text ↔ scan source.toList = [.text text] := by
  unfold literal?
  split
  · next found =>
    rw [found]
    simp
  · next other =>
    constructor
    · intro none
      cases none
    · intro found
      exact absurd found (other text)

theorem ofTokens_text (text : String) : ofTokens [.text text] = .ok (.constant (.text text)) := by
  with_unfolding_all rfl

theorem evaluate_literal {source text : String} (literal : literal? source = some text)
    (environment : Environment) (data : Value) : evaluate environment data source = .ok (.text text) := by
  rw [evaluate, compile, literal?_eq_some_iff.mp literal, ofTokens_text, Except.bind, eval]

end BlockTemplates.Expr
