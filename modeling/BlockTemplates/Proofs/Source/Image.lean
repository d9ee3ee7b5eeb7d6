import BlockTemplates.Proofs.Source.Reading

/-! The texts that a source can be split into, and a way to write each of them. A literal never has
a backslash before the opening of a hole, an expression is trimmed and closes all that it opens.
Main statement: `splits_iff_writable`. -/

namespace BlockTemplates.Source

/-- A literal that some source can spell. -/
def Spellable (literal : List Char) : Prop := ¬ ['\\', '$', '{'] <:+: literal

/-- An expression that a hole can hold: it is trimmed, closes no brace that it has not opened and
leaves no brace and no string open. -/
def Enclosed (expression : List Char) : Prop :=
  Text.Trimmed expression ∧ (Nesting.code 0).afterAll? expression = some (.code 0)

/-- Literals and expressions of some source. -/
structure Writable (literals expressions : List (List Char)) : Prop where
  count : literals.length = expressions.length + 1
  spellable : ∀ literal ∈ literals, Spellable literal
  enclosed : ∀ expression ∈ expressions, Enclosed expression

/-- A literal as it is written, with a backslash before each opening of a hole. -/
def escape : List Char → List Char
  | '$' :: '{' :: rest => '\\' :: '$' :: '{' :: escape rest
  | c :: rest => c :: escape rest
  | [] => []

def guardOf (literal : List Char) : List Char :=
  if literal.getLast? = some '\\' then ['\\'] else []

def write : List (List Char) → List (List Char) → List Char
  | literal :: literals, expression :: expressions =>
    escape literal ++ (guardOf literal ++ ('$' :: '{' :: (expression ++ '}' :: write literals expressions)))
  | [literal], [] => escape literal
  | _, _ => []

section Text

theorem spellable_append {text : List Char} {c : Char} (spellable : Spellable text)
    (apart : c = '{' → ¬ ['\\', '$'] <:+ text) : Spellable (text ++ [c]) := by
  intro found
  obtain found | found := List.infix_concat_iff.mp found
  · obtain nothing | ⟨before, same, ended⟩ := List.suffix_concat_iff.mp found
    · exact List.cons_ne_nil _ _ nothing
    · change ['\\', '$'] ++ ['{'] = before ++ [c] at same
      obtain ⟨start, brace⟩ := List.append_inj' same rfl
      rw [← start] at ended
      exact apart (List.cons.inj brace).1.symm ended
  · exact spellable found

theorem Spellable.of_append {text more : List Char} (spellable : Spellable (text ++ more)) :
    Spellable text := fun found => spellable (found.trans (List.prefix_append text more).isInfix)

theorem Spellable.of_append_left {text more : List Char} (spellable : Spellable (text ++ more)) :
    Spellable more := fun found => spellable (found.trans (List.suffix_append text more).isInfix)

theorem not_suffix_of_getLast? {text : List Char} (last : text.getLast? ≠ some '$') :
    ¬ ['\\', '$'] <:+ text := by
  rintro ⟨before, rfl⟩
  exact last (by simp)

/-- What holds of the text read since the last finished literal or expression. -/
def SoundText (text : List Char) : Mode → Prop
  | .literal backslashes dollar =>
    Spellable (text ++ held backslashes dollar) ∧ text.getLast? ≠ some '\\' ∧
      (dollar = false → backslashes = 0 → text.getLast? ≠ some '$')
  | .hole nesting => (Nesting.code 0).afterAll? text = some nesting

theorem soundText_nil : SoundText [] (.literal 0 false) := by
  simp [SoundText, Spellable]

theorem copy_cases (done holes : List (List Char)) (text : List Char) (before : Mode)
    (backslashes : Nat) (c : Char) :
    (c = '\\' ∧ Reading.copy ⟨done, holes, text, before⟩ backslashes c =
        ⟨done, holes, text, .literal (backslashes + 1) false⟩) ∨
      (c = '$' ∧ Reading.copy ⟨done, holes, text, before⟩ backslashes c =
        ⟨done, holes, text, .literal backslashes true⟩) ∨
      (c ≠ '\\' ∧ c ≠ '$' ∧ Reading.copy ⟨done, holes, text, before⟩ backslashes c =
        ⟨done, holes, text ++ held backslashes false ++ [c], .literal 0 false⟩) := by
  by_cases slash : c = '\\'
  · subst slash
    exact .inl ⟨rfl, rfl⟩
  · by_cases dollar : c = '$'
    · subst dollar
      exact .inr (.inl ⟨rfl, rfl⟩)
    · exact .inr (.inr ⟨slash, dollar, by simp [Reading.copy, slash, dollar]⟩)

theorem soundText_copy (done holes : List (List Char)) (before : Mode) {text : List Char}
    {backslashes : Nat} (c : Char) (spellable : Spellable (text ++ held backslashes false))
    (last : text.getLast? ≠ some '\\')
    (brace : c = '{' → backslashes = 0 → text.getLast? ≠ some '$') :
    ∃ text' backslashes' dollar', SoundText text' (.literal backslashes' dollar') ∧
      Reading.copy ⟨done, holes, text, before⟩ backslashes c =
        ⟨done, holes, text', .literal backslashes' dollar'⟩ := by
  obtain ⟨rfl, copied⟩ | ⟨rfl, copied⟩ | ⟨slash, dollar, copied⟩ :=
    copy_cases done holes text before backslashes c
  · refine ⟨text, backslashes + 1, false, ⟨?_, last, by simp⟩, copied⟩
    rw [held_succ, ← List.append_assoc]
    exact spellable_append spellable (by simp)
  · refine ⟨text, backslashes, true, ⟨?_, last, by simp⟩, copied⟩
    rw [held_dollar, ← List.append_assoc]
    exact spellable_append spellable (by simp)
  · refine ⟨text ++ held backslashes false ++ [c], 0, false,
      ⟨?_, by simpa using slash, fun _ _ => by simpa using dollar⟩, copied⟩
    rw [held_zero, List.append_nil]
    refine spellable_append spellable fun same => not_suffix_of_getLast? ?_
    cases backslashes with
    | zero => simpa using brace same rfl
    | succ backslashes =>
      rw [held_succ]
      simp

theorem soundText_opening {text : List Char} (spellable : Spellable (text ++ held 0 false))
    (last : text.getLast? ≠ some '\\') : SoundText (text ++ ['$', '{']) (.literal 0 false) := by
  rw [held_zero, List.append_nil] at spellable
  refine ⟨?_, by simp, by simp⟩
  have dollar : Spellable (text ++ ['$']) := spellable_append spellable (by simp)
  rw [held_zero, List.append_nil, List.append_cons]
  refine spellable_append dollar fun _ => ?_
  rintro ⟨before, same⟩
  have slash := List.append_inj_left' (List.append_cons before '\\' ['$'] ▸ same) rfl
  rw [← slash] at last
  simp at last

end Text

section Expression

theorem afterAll?_append (nesting : Nesting) (first second : List Char) :
    nesting.afterAll? (first ++ second) = (nesting.afterAll? first).bind (·.afterAll? second) :=
  List.foldlM_append

theorem isSpecial_of_isBlank {c : Char} (blank : Text.isBlank c = true) : isSpecial c = false := by
  cases special : isSpecial c with
  | false => rfl
  | true =>
    simp only [isSpecial, Bool.or_eq_true, decide_eq_true_eq] at special
    rcases special with ((((rfl | rfl) | rfl) | rfl) | rfl) | rfl <;> exact Bool.noConfusion blank

theorem quoted_of_afterAll? {run : List Char} (ordinary : ∀ c ∈ run, isSpecial c = false)
    (braces : Nat) (quote : Quote) (escaped : Bool) :
    ∃ escaped', (Nesting.quoted braces quote escaped).afterAll? run =
      some (.quoted braces quote escaped') := by
  cases escaped with
  | false => exact ⟨false, afterAll?_quoted ordinary braces quote⟩
  | true =>
    cases run with
    | nil => exact ⟨true, rfl⟩
    | cons c run =>
      exact ⟨false, afterAll?_quoted (List.forall_mem_cons.mp ordinary).2 braces quote⟩

theorem enclosed_trim {text : List Char} (closed : (Nesting.code 0).afterAll? text = some (.code 0)) :
    Enclosed (Text.trim text) := by
  refine ⟨Text.trimmed_trim text, ?_⟩
  obtain ⟨before, after, same, blank, blank'⟩ := Text.eq_trim_append text
  have ordinary : ∀ c ∈ after, isSpecial c = false := fun c member =>
    isSpecial_of_isBlank (blank' c member)
  have skipped := afterAll?_code (fun c member => isSpecial_of_isBlank (blank c member)) 0
  rw [same, afterAll?_append, skipped, Option.bind_some, afterAll?_append] at closed
  obtain ⟨inner, inside, closed⟩ := Option.bind_eq_some_iff.mp closed
  rw [inside]
  cases inner with
  | code braces => rwa [afterAll?_code ordinary] at closed
  | quoted braces quote escaped =>
    obtain ⟨escaped', open'⟩ := quoted_of_afterAll? ordinary braces quote escaped
    rw [open'] at closed
    exact Nesting.noConfusion (Option.some.inj closed)

theorem closed_of_after? {nesting : Nesting} {c : Char} (closed : nesting.after? c = none) :
    nesting = .code 0 ∧ c = '}' := by
  cases nesting with
  | code braces =>
    simp only [Nesting.after?] at closed
    repeat' split at closed
    all_goals simp_all
  | quoted braces quote escaped =>
    cases escaped with
    | true => simp [Nesting.after?] at closed
    | false =>
      simp only [Nesting.after?] at closed
      repeat' split at closed
      all_goals simp at closed

end Expression

section Sound

/-- What holds of a source at every place: the texts finished so far are ones that can be written,
and so is what is being read. -/
structure Sound (reading : Reading) : Prop where
  count : reading.literals.length = reading.expressions.length +
    (match reading.mode with | .literal _ _ => 0 | .hole _ => 1)
  spellable : ∀ literal ∈ reading.literals, Spellable literal
  enclosed : ∀ expression ∈ reading.expressions, Enclosed expression
  text : SoundText reading.text reading.mode

theorem sound_start : Sound .start :=
  ⟨rfl, List.forall_mem_nil _, List.forall_mem_nil _, soundText_nil⟩

theorem forall_mem_snoc {P : List Char → Prop} {texts : List (List Char)} {text : List Char}
    (all : ∀ x ∈ texts, P x) (last : P text) : ∀ x ∈ texts ++ [text], P x := by
  intro x member
  obtain member | member := List.mem_append.mp member
  · exact all x member
  · rwa [List.mem_singleton.mp member]

section Step

variable {literals expressions : List (List Char)} {text : List Char} {mode : Mode}

theorem sound_openHole (sound : Sound ⟨literals, expressions, text, mode⟩)
    (same : literals.length = expressions.length) {tail : List Char} (ends : Spellable (text ++ tail)) :
    Sound (Reading.openHole ⟨literals, expressions, text, mode⟩ tail) :=
  ⟨by simp [Reading.openHole, same], forall_mem_snoc sound.spellable ends, sound.enclosed, rfl⟩

theorem sound_copy {backslashes : Nat} (sound : Sound ⟨literals, expressions, text, mode⟩)
    (same : literals.length = expressions.length) {settled : List Char} {c : Char}
    (spellable : Spellable (settled ++ held backslashes false)) (last : settled.getLast? ≠ some '\\')
    (brace : c = '{' → backslashes = 0 → settled.getLast? ≠ some '$') :
    Sound (Reading.copy ⟨literals, expressions, settled, mode⟩ backslashes c) := by
  obtain ⟨text', backslashes', dollar', sound', stepped⟩ :=
    soundText_copy literals expressions mode c spellable last brace
  rw [stepped]
  exact ⟨same, sound.spellable, sound.enclosed, sound'⟩

theorem sound_afterDollar {backslashes : Nat}
    (sound : Sound ⟨literals, expressions, text, .literal backslashes true⟩) (c : Char) :
    Sound (Reading.afterDollar ⟨literals, expressions, text, .literal backslashes true⟩ backslashes c) := by
  obtain ⟨copied, last, -⟩ := sound.text
  dsimp only at copied last
  simp only [Reading.afterDollar]
  split
  case isTrue brace =>
    subst brace
    rw [held_dollar, ← List.append_assoc] at copied
    cases backslashes with
    | zero => exact sound_openHole sound sound.count (by simpa using copied.of_append)
    | succ backslashes =>
      rw [held_succ, ← List.append_assoc] at copied
      have short := copied.of_append.of_append
      -- One backslash makes the opening literal text, more of them belong to the literal.
      cases backslashes with
      | zero => exact ⟨sound.count, sound.spellable, sound.enclosed, soundText_opening short last⟩
      | succ backslashes => exact sound_openHole sound sound.count short
  case isFalse brace =>
    have ended : (text ++ held backslashes true).getLast? = some '$' := by
      rw [held_dollar]
      simp
    have flushed : Spellable (text ++ held backslashes true ++ held 0 false) := by
      rwa [held_zero, List.append_nil]
    exact sound_copy sound sound.count flushed (by simp [ended]) fun same => absurd same brace

theorem sound_inHole {nesting : Nesting} (sound : Sound ⟨literals, expressions, text, .hole nesting⟩)
    (c : Char) : Sound (Reading.step ⟨literals, expressions, text, .hole nesting⟩ c) := by
  obtain ⟨count, spellable, enclosed, inside⟩ := sound
  simp only [Reading.step]
  split
  case h_1 inner stepped =>
    refine ⟨count, spellable, enclosed, ?_⟩
    change (Nesting.code 0).afterAll? (text ++ [c]) = some inner
    change (Nesting.code 0).afterAll? text = some nesting at inside
    rw [afterAll?_append, inside, Option.bind_some, Nesting.afterAll?, List.foldlM_cons, stepped]
    rfl
  case h_2 closed =>
    obtain ⟨rfl, rfl⟩ := closed_of_after? closed
    refine ⟨?_, spellable, forall_mem_snoc enclosed (enclosed_trim inside), soundText_nil⟩
    rw [Reading.closeHole, List.length_append]
    exact count

end Step

/-- Whatever the next character is, what has been read can still be written. -/
theorem sound_step {reading : Reading} (sound : Sound reading) (c : Char) :
    Sound (reading.step c) := by
  obtain ⟨literals, expressions, text, mode⟩ := reading
  cases mode with
  | literal backslashes dollar =>
    cases dollar with
    | true => exact sound_afterDollar sound c
    | false =>
      obtain ⟨copied, last, pending⟩ := sound.text
      exact sound_copy sound sound.count copied last fun _ => pending rfl
  | hole nesting => exact sound_inHole sound c

theorem sound_steps {reading : Reading} (sound : Sound reading) (text : List Char) :
    Sound (reading.steps text) := by
  induction text generalizing reading with
  | nil => exact sound
  | cons c text ih => exact ih (sound_step sound c)

theorem writable_of_finish? {reading : Reading} (sound : Sound reading)
    {literals expressions : List (List Char)}
    (finished : reading.finish? = some (literals, expressions)) : Writable literals expressions := by
  obtain ⟨done, holes, text, mode⟩ := reading
  obtain ⟨count, spellable, enclosed, sound⟩ := sound
  cases mode with
  | hole nesting => exact absurd finished (by simp [Reading.finish?])
  | literal backslashes dollar =>
    obtain ⟨rfl, rfl⟩ := Prod.mk.inj (Option.some.inj finished)
    dsimp only at count
    exact ⟨by simp [count], forall_mem_snoc spellable sound.1, enclosed⟩

theorem writable_of_splitsInto {source : String} {literals expressions : List String}
    (splits : SplitsInto source literals expressions) :
    Writable (literals.map String.toList) (expressions.map String.toList) :=
  writable_of_finish? (sound_steps sound_start source.toList) (splitsInto_iff.mp splits)

end Sound

section Written

variable (done holes : List (List Char))

/-- The literal has been read on by `c` after `whole`, of which `pending` was held back. -/
def Copied (whole pending : List Char) (c : Char) (reached : Reading) : Prop :=
  ∃ text backslashes dollar, reached = ⟨done, holes, text, .literal backslashes dollar⟩ ∧
    text ++ held backslashes dollar = whole ++ [c] ∧
    held backslashes dollar <:+ pending ++ [c] ∧ (dollar = true → c = '$')

theorem copied_copy (text : List Char) (before : Mode) (backslashes : Nat) (c : Char) :
    Copied done holes (text ++ held backslashes false) (held backslashes false) c
      (Reading.copy ⟨done, holes, text, before⟩ backslashes c) := by
  obtain ⟨rfl, copied⟩ | ⟨rfl, copied⟩ | ⟨-, -, copied⟩ :=
    copy_cases done holes text before backslashes c
  · refine ⟨text, backslashes + 1, false, copied, ?_, ?_, by simp⟩
    · rw [held_succ, List.append_assoc]
    · exact ⟨[], held_succ backslashes⟩
  · refine ⟨text, backslashes, true, copied, ?_, ?_, fun _ => rfl⟩
    · rw [held_dollar, List.append_assoc]
    · exact ⟨[], held_dollar backslashes⟩
  · exact ⟨_, 0, false, copied, by simp, by simp, by simp⟩

theorem copied_step (text : List Char) (backslashes : Nat) {dollar : Bool} {c : Char}
    (apart : dollar = true → c ≠ '{') :
    Copied done holes (text ++ held backslashes dollar) (held backslashes dollar) c
      (Reading.step ⟨done, holes, text, .literal backslashes dollar⟩ c) := by
  cases dollar with
  | false => exact copied_copy done holes text _ backslashes c
  | true =>
    have settled : Reading.step ⟨done, holes, text, .literal backslashes true⟩ c =
        Reading.copy ⟨done, holes, text ++ held backslashes true, .literal backslashes true⟩ 0 c := by
      simp [Reading.step, Reading.afterDollar, apart]
    obtain ⟨text', backslashes', dollar', stepped, same, ended, opens⟩ :=
      copied_copy done holes (text ++ held backslashes true) (.literal backslashes true) 0 c
    rw [settled]
    exact ⟨text', backslashes', dollar', stepped, by simpa using same,
      ended.trans ⟨held backslashes true, by simp⟩, opens⟩

theorem steps_escaped (text : List Char) {backslashes : Nat} {dollar : Bool} {rest : List Char}
    (spellable : Spellable (held backslashes dollar ++ '$' :: '{' :: rest)) :
    Reading.steps ⟨done, holes, text, .literal backslashes dollar⟩ ['\\', '$', '{'] =
      ⟨done, holes, text ++ held backslashes dollar ++ ['$', '{'], .literal 0 false⟩ := by
  cases dollar with
  | true => simp [Reading.step, Reading.afterDollar, Reading.copy]
  | false =>
    cases backslashes with
    | zero => simp [Reading.step, Reading.afterDollar, Reading.copy]
    | succ backslashes =>
      refine absurd ⟨held backslashes false, rest, ?_⟩ spellable
      rw [held_succ]
      simp

theorem steps_escape {literal : List Char} (text : List Char) (backslashes : Nat) (dollar : Bool)
    (spellable : Spellable (held backslashes dollar ++ literal))
    (apart : dollar = true → ∀ rest, literal ≠ '{' :: rest) :
    ∃ text' backslashes' dollar',
      Reading.steps ⟨done, holes, text, .literal backslashes dollar⟩ (escape literal) =
        ⟨done, holes, text', .literal backslashes' dollar'⟩ ∧
      text' ++ held backslashes' dollar' = text ++ held backslashes dollar ++ literal := by
  -- What is held back when the recursion starts is carried along as `backslashes` and `dollar`.
  fun_induction escape literal generalizing text backslashes dollar with
  | case1 rest ih =>
    have opening : Spellable (['$', '{'] ++ rest) := spellable.of_append_left
    have rest' : Spellable (held 0 false ++ rest) := opening.of_append_left
    obtain ⟨text', backslashes', dollar', read, same⟩ :=
      ih (text ++ held backslashes dollar ++ ['$', '{']) 0 false rest' (by simp)
    refine ⟨text', backslashes', dollar', ?_, by simpa using same⟩
    rw [← read, ← steps_escaped done holes text spellable, ← Reading.steps_append]
    rfl
  | case2 c rest notOpen ih =>
    have noBrace : dollar = true → c ≠ '{' := by
      rintro h rfl
      exact apart h rest rfl
    obtain ⟨between, backslashes₁, dollar₁, stepped, same₁, ended, opens⟩ :=
      copied_step done holes text backslashes noBrace
    obtain ⟨front, same⟩ := ended
    have rest' : Spellable (held backslashes₁ dollar₁ ++ rest) := by
      rw [List.append_cons, ← same, List.append_assoc] at spellable
      exact spellable.of_append_left
    have noBrace' : dollar₁ = true → ∀ after, rest ≠ '{' :: after := by
      rintro h after rfl
      exact notOpen after (opens h) rfl
    obtain ⟨text', backslashes', dollar', read, same'⟩ :=
      ih between backslashes₁ dollar₁ rest' noBrace'
    refine ⟨text', backslashes', dollar', ?_, ?_⟩
    · rw [Reading.steps_cons, stepped, read]
    · rw [same', same₁]
      simp
  | case3 => exact ⟨text, backslashes, dollar, rfl, by simp⟩

theorem steps_open {text : List Char} {backslashes : Nat} {dollar : Bool}
    (last : text.getLast? ≠ some '\\') :
    Reading.steps ⟨done, holes, text, .literal backslashes dollar⟩
        (guardOf (text ++ held backslashes dollar) ++ ['$', '{']) =
      ⟨done ++ [text ++ held backslashes dollar], holes, [], .hole (.code 0)⟩ := by
  cases dollar with
  | true =>
    have unguarded : guardOf (text ++ held backslashes true) = [] := by
      simp [guardOf, held_dollar]
    rw [unguarded]
    simp [Reading.step, Reading.afterDollar, Reading.copy, Reading.openHole]
  | false =>
    cases backslashes with
    | zero =>
      have unguarded : guardOf (text ++ held 0 false) = [] := by
        simp [guardOf, last]
      rw [unguarded]
      simp [Reading.step, Reading.afterDollar, Reading.copy, Reading.openHole]
    | succ backslashes =>
      have guarded : guardOf (text ++ held (backslashes + 1) false) = ['\\'] := by
        simp [guardOf, held_succ]
      rw [guarded]
      simp [Reading.step, Reading.afterDollar, Reading.copy, Reading.openHole]

theorem steps_hole_written {text expression : List Char} {backslashes : Nat} {dollar : Bool}
    (last : text.getLast? ≠ some '\\') (enclosed : Enclosed expression) :
    Reading.steps ⟨done, holes, text, .literal backslashes dollar⟩
        (guardOf (text ++ held backslashes dollar) ++ ['$', '{'] ++ expression ++ ['}']) =
      ⟨done ++ [text ++ held backslashes dollar], holes ++ [expression], [], .literal 0 false⟩ := by
  obtain ⟨trimmed, closed⟩ := enclosed
  rw [Reading.steps_append, Reading.steps_append, steps_open done holes last,
    steps_hole _ _ [] closed]
  change Reading.closeHole ⟨_, _, [] ++ expression, .hole (.code 0)⟩ = _
  simp [Reading.closeHole, Text.trim_of_trimmed trimmed]

theorem steps_write {done holes literals expressions : List (List Char)}
    (sound : Sound ⟨done, holes, [], .literal 0 false⟩) (writable : Writable literals expressions) :
    (Reading.steps ⟨done, holes, [], .literal 0 false⟩ (write literals expressions)).finish? =
      some (done ++ literals, holes ++ expressions) := by
  induction expressions generalizing done holes literals with
  | nil =>
    obtain ⟨literal, rfl⟩ := List.length_eq_one_iff.mp writable.count
    have spellable : Spellable literal := writable.spellable literal List.mem_cons_self
    obtain ⟨text, backslashes, dollar, read, same⟩ :=
      steps_escape done holes [] 0 false spellable (by simp)
    change text ++ held backslashes dollar = literal at same
    rw [write, read, ← same]
    simp [Reading.finish?]
  | cons expression expressions ih =>
    obtain ⟨count, spellable, enclosed⟩ := writable
    cases literals with
    | nil => cases count
    | cons literal literals =>
      rw [List.forall_mem_cons] at spellable enclosed
      obtain ⟨text, backslashes, dollar, read, same⟩ :=
        steps_escape done holes [] 0 false spellable.1 (by simp)
      change text ++ held backslashes dollar = literal at same
      -- All backslashes at the end of the literal are held back, so that the guard is seen.
      have last : text.getLast? ≠ some '\\' := by
        have reached := (sound_steps sound (escape literal)).text
        rw [read] at reached
        exact reached.2.1
      have reached : Reading.steps ⟨done, holes, [], .literal 0 false⟩
          (escape literal ++ (guardOf literal ++ ['$', '{'] ++ expression ++ ['}'])) =
            ⟨done ++ [literal], holes ++ [expression], [], .literal 0 false⟩ := by
        rw [Reading.steps_append, read, ← same, steps_hole_written done holes last enclosed.1]
      have sound' := sound_steps sound
        (escape literal ++ (guardOf literal ++ ['$', '{'] ++ expression ++ ['}']))
      rw [reached] at sound'
      have written := ih sound' ⟨Nat.succ.inj count, spellable.2, enclosed.2⟩
      rw [← reached, ← Reading.steps_append] at written
      rw [write]
      simpa using written

end Written

/-- The literals and the expressions of the sources are exactly those that can be written, and
writing them gives one of their sources. -/
theorem splits_iff_writable (literals expressions : List String) :
    ((∃ source, SplitsInto source literals expressions) ↔
      Writable (literals.map String.toList) (expressions.map String.toList)) ∧
    (SplitsInto (String.ofList (write (literals.map String.toList) (expressions.map String.toList)))
        literals expressions ↔
      Writable (literals.map String.toList) (expressions.map String.toList)) := by
  have inverse (writable : Writable (literals.map String.toList) (expressions.map String.toList)) :
      SplitsInto
        (String.ofList (write (literals.map String.toList) (expressions.map String.toList)))
        literals expressions := by
    rw [splitsInto_iff, String.toList_ofList]
    exact steps_write sound_start writable
  exact ⟨⟨fun ⟨_, splits⟩ => writable_of_splitsInto splits, fun writable => ⟨_, inverse writable⟩⟩,
    writable_of_splitsInto, inverse⟩

end BlockTemplates.Source
