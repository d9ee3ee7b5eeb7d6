import BlockTemplates.Proofs.Source.Hole
import BlockTemplates.Proofs.Source.Place

/-! Where the holes of a source stand and what lies between them. Main statement: `split_laidOut`, the
literals and the holes of a source are the stretches of it between the openings and the closing
braces, and a source that is refused has an opening that the text after it never closes. -/

namespace BlockTemplates.Source

/-- The offsets of a hole: where its dollar sign stands and where its closing brace. -/
structure Span where
  opened : Nat
  closed : Nat

def slice (source : List Char) (start stop : Nat) : List Char := (source.take stop).drop start

def unescape : List Char → List Char
  | '\\' :: '$' :: '{' :: rest => '$' :: '{' :: unescape rest
  | c :: rest => c :: unescape rest
  | [] => []

/-- The text that literal text spells in front of a hole. Of several backslashes at its end one only
tells that the hole is none of the literal. -/
def unescapeBefore (text : List Char) : List Char :=
  if ['\\', '\\'] <:+ text then (unescape text).dropLast else unescape text

/-- The text ends in a backslash that has no other one before it. -/
def Guards (text : List Char) : Prop := ['\\'] <:+ text ∧ ¬ ['\\', '\\'] <:+ text

def Unopened (text : List Char) : Prop :=
  ∀ before after, text = before ++ '$' :: '{' :: after → Guards before

/-- No closing brace in the text balances an opening in front of it. -/
def NeverCloses (text : List Char) : Prop :=
  ∀ expression rest, text = expression ++ '}' :: rest → ¬ Moves expression 0 0

/-- The holes of a source before the offset `reached`, with the literals in front of them. -/
inductive LaidOut (source : List Char) : Nat → List Span → List String → List Hole → Prop
  | start : LaidOut source 0 [] [] []
  | hole {reached opened closed : Nat} {spans : List Span} {literals : List String} {holes : List Hole}
      (before : LaidOut source reached spans literals holes)
      (apart : reached ≤ opened)
      (unopened : Unopened (slice source reached opened))
      (unguarded : ¬ Guards (slice source reached opened))
      (opens : slice source opened (opened + 2) = ['$', '{'])
      (ordered : opened + 2 ≤ closed)
      (closes : slice source closed (closed + 1) = ['}'])
      (balanced : Moves (slice source (opened + 2) closed) 0 0) :
      LaidOut source (closed + 1) (spans ++ [⟨opened, closed⟩])
        (literals ++ [String.ofList (unescapeBefore (slice source reached opened))])
        (holes ++ [⟨String.ofList (Text.trim (slice source (opened + 2) closed)),
          placeAfter (source.take opened)⟩])

section Literal

/-- The text and what follows it do not make a longer token together. -/
structure Seam (text rest : List Char) : Prop where
  slash : text.getLast? = some '\\' → ∀ after, rest ≠ '$' :: '{' :: after
  slashes : text.getLast? = some '\\' → ∀ after, rest ≠ '\\' :: '$' :: '{' :: after
  dollar : text.getLast? = some '$' → ∀ after, rest ≠ '{' :: after

theorem Seam.of_append {text first rest : List Char} (seam : Seam text (first ++ rest)) :
    Seam text first := by
  constructor
  · rintro last after rfl
    exact seam.slash last (after ++ rest) rfl
  · rintro last after rfl
    exact seam.slashes last (after ++ rest) rfl
  · rintro last after rfl
    exact seam.dollar last (after ++ rest) rfl

theorem Seam.append {first rest : List Char} (seam : Seam first rest) (some : first ≠ [])
    (text : List Char) : Seam (text ++ first) rest := by
  have last : (text ++ first).getLast? = first.getLast? := by
    rw [List.getLast?_append, List.getLast?_eq_some_getLast some]
    rfl
  exact ⟨last ▸ seam.slash, last ▸ seam.slashes, last ▸ seam.dollar⟩

theorem seam_nil (rest : List Char) : Seam [] rest := ⟨nofun, nofun, nofun⟩

theorem Seam.tail {c : Char} {text rest : List Char} (seam : Seam (c :: text) rest) : Seam text rest := by
  cases text with
  | nil => exact seam_nil rest
  | cons d text => exact ⟨seam.slash, seam.slashes, seam.dollar⟩

theorem seam_of_last {text : List Char} {c : Char} (last : text.getLast? = some c)
    (plain : c ≠ '\\' ∧ c ≠ '$') (rest : List Char) : Seam text rest := by
  have slash : text.getLast? ≠ some '\\' := fun same => plain.1 (Option.some.inj (last.symm.trans same))
  have dollar : text.getLast? ≠ some '$' := fun same => plain.2 (Option.some.inj (last.symm.trans same))
  exact ⟨fun same => absurd same slash, fun same => absurd same slash, fun same => absurd same dollar⟩

theorem seam_next (c : Char) (rest : List Char) : Seam (next c rest).1.chars (next c rest).2 := by
  have ordinary (run : List Char) (token : (next c rest).1 = .text run) := ordinary_of_next token
  unfold next at ordinary ⊢
  split at ordinary
  case h_4 notDouble notSingle =>
    exact ⟨fun _ => notSingle, fun _ => notDouble, nofun⟩
  case h_5 notOpen =>
    exact ⟨nofun, nofun, fun _ => notOpen⟩
  case h_10 =>
    obtain ⟨some, plain⟩ := ordinary _ rfl
    refine seam_of_last (List.getLast?_eq_some_getLast some) ?_ _
    have special := plain _ (List.getLast_mem some)
    constructor <;> (intro same; rw [same] at special; cases special)
  all_goals exact seam_of_last rfl (by decide) _

theorem unescape_append {text rest : List Char} (seam : Seam text rest) :
    unescape (text ++ rest) = unescape text ++ unescape rest := by
  fun_induction unescape text with
  | case1 text ih =>
    change '$' :: '{' :: unescape (text ++ rest) = _
    rw [ih seam.tail.tail.tail]
    rfl
  | case2 c text notOpen ih =>
    -- An opening that the two texts made together would begin with the characters up to the seam.
    have notOpen' : ∀ after, c = '\\' → text ++ rest = '$' :: '{' :: after → False := by
      rintro after rfl whole
      cases text with
      | nil => exact seam.slash rfl after whole
      | cons d text =>
        obtain ⟨rfl, later⟩ := List.cons.inj whole
        cases text with
        | nil => exact seam.dollar rfl after later
        | cons d text =>
          obtain ⟨rfl, -⟩ := List.cons.inj later
          exact notOpen text rfl rfl
    rw [List.cons_append, unescape.eq_2 c _ notOpen', ih seam.tail, List.cons_append]
  | case3 => rfl

theorem unopened_nil : Unopened [] := by
  intro before after whole
  simp at whole

theorem unopened_append {text rest : List Char} (unopened : Unopened text) (seam : Seam text rest)
    (later : ∀ before after, rest = before ++ '$' :: '{' :: after → Guards (text ++ before)) :
    Unopened (text ++ rest) := by
  intro before after whole
  obtain ⟨more, rfl, opens⟩ | ⟨more, rfl, opens⟩ := List.append_eq_append_iff.mp whole
  · exact later more after opens
  · match more with
    | [] => simpa using later [] after opens.symm
    | [c] =>
      obtain ⟨rfl, brace⟩ := List.cons.inj opens
      exact absurd brace.symm (seam.dollar (by simp) after)
    | c :: d :: more =>
      obtain ⟨rfl, brace⟩ := List.cons.inj opens
      obtain ⟨rfl, -⟩ := List.cons.inj brace
      exact unopened before more rfl

theorem guards_of_chars {token : Token} (ordinary : ∀ run, token = .text run → '$' ∉ run)
    (closed : token ≠ .openHole ∧ token ≠ .backslashOpen) {text after : List Char}
    (seam : Seam text (token.chars ++ after)) :
    ∀ before more, token.chars = before ++ '$' :: '{' :: more → Guards (text ++ before) := by
  intro before more opens
  cases token with
  | openHole => exact absurd rfl closed.1
  | backslashOpen => exact absurd rfl closed.2
  | escapedOpen =>
    obtain rfl : before = ['\\'] := by
      match before with
      | [] => cases opens
      | [c] => rw [(List.cons.inj opens).1]
      | c :: d :: before =>
        have short := congrArg List.length opens
        simp only [Token.chars, List.length_append, List.length_cons, List.length_nil] at short
        omega
    refine ⟨List.suffix_append _ _, ?_⟩
    rintro ⟨front, double⟩
    have last : front ++ ['\\'] = text := List.append_cancel_right ((List.append_cons _ _ _).symm.trans double)
    exact seam.slashes (by simp [← last]) after rfl
  | text run =>
    refine absurd ?_ (ordinary run rfl)
    change run = _ at opens
    simp [opens]
  | _ =>
    have short := congrArg List.length opens
    simp [Token.chars] at short
    omega

end Literal

section Steps

def Context.opened? : Context → Option Position
  | .literal => none
  | .expression opened _ => some opened
  | .quoted opened _ _ _ => some opened

theorem literal_of_opened? {context : Context} (outside : context.opened? = none) : context = .literal := by
  cases context with
  | literal => rfl
  | expression => cases outside
  | quoted => cases outside

theorem finish_literal {progress : Progress} (outside : progress.context = .literal) :
    progress.finish = .ok ⟨progress.literals ++ [progress.literal], progress.holes⟩ := by
  rw [Progress.finish, outside]

theorem finish_hole {progress : Progress} {opened : Position}
    (inside : progress.context.opened? = some opened) : progress.finish = .error opened := by
  obtain ⟨literals, holes, literal, expression, place, context⟩ := progress
  cases context with
  | literal => cases inside
  | expression => exact congrArg Except.error (Option.some.inj inside)
  | quoted => exact congrArg Except.error (Option.some.inj inside)

theorem step_hole {progress : Progress} {opened : Position}
    (inside : progress.context.opened? = some opened) (token : Token) :
    (∃ context : Context, context.opened? = some opened ∧
      progress.step token =
        { progress.keepExpression token context with place := progress.place.afterAll token.chars }) ∨
    (token = .closeBrace ∧ (∃ depth, progress.context = .expression opened depth ∧ depth = 1) ∧
      progress.step token =
        { progress.closeHole opened with place := progress.place.afterAll token.chars }) := by
  obtain ⟨literals, holes, literal, expression, place, context⟩ := progress
  cases context with
  | literal => cases inside
  | expression opened' depth =>
    obtain rfl := Option.some.inj inside
    by_cases closes : token = .closeBrace ∧ depth = 1
    · obtain ⟨rfl, rfl⟩ := closes
      exact .inr ⟨rfl, ⟨1, rfl, rfl⟩, rfl⟩
    · refine .inl ?_
      cases token with
      | closeBrace =>
        have deeper : depth ≠ 1 := fun same => closes ⟨rfl, same⟩
        refine ⟨.expression opened' (depth - 1), rfl, ?_⟩
        simp [Progress.step, Progress.inExpression, deeper]
      | _ => exact ⟨_, rfl, rfl⟩
  | quoted opened' depth quote escaped =>
    obtain rfl := Option.some.inj inside
    refine .inl ⟨_, ?_, rfl⟩
    split
    · rfl
    · split
      · rfl
      · split <;> rfl

theorem unescape_plain {text : List Char} (plain : '\\' ∉ text) : unescape text = text := by
  induction text with
  | nil => rfl
  | cons c text ih =>
    rw [List.mem_cons, not_or] at plain
    rw [unescape.eq_2 c text fun _ slash _ => plain.1 slash.symm, ih plain.2]

/-- A token of literal text adds to the literal what it spells, unless it opens a hole. -/
theorem step_literal {progress : Progress} (outside : progress.context = .literal) {token : Token}
    (ordinary : ∀ run, token = .text run → '\\' ∉ run)
    (closed : token ≠ .openHole ∧ token ≠ .backslashOpen) :
    progress.step token = { progress.keepLiteral (unescape token.chars) with
      place := progress.place.afterAll token.chars } := by
  unfold Progress.step
  rw [outside]
  cases token with
  | openHole => exact absurd rfl closed.1
  | backslashOpen => exact absurd rfl closed.2
  | text run =>
    have plain : unescape (Token.text run).chars = run := unescape_plain (ordinary run rfl)
    rw [plain]
    rfl
  | _ => rfl

end Steps

section Slices

theorem slice_eq {source : List Char} (first middle last : List Char) {start stop : Nat}
    (whole : source = first ++ (middle ++ last)) (starts : start = first.length)
    (stops : stop = first.length + middle.length) : slice source start stop = middle := by
  rw [whole, starts, stops, slice, List.take_length_add_append, List.drop_left, List.take_left]

theorem LaidOut.close {source done raw expression rest : List Char} {spans : List Span}
    {literals : List String} {holes : List Hole} (laid : LaidOut source done.length spans literals holes)
    (whole : source = done ++ (raw ++ ('$' :: '{' :: (expression ++ '}' :: rest))))
    (unopened : Unopened raw) (unguarded : ¬ Guards raw) (balanced : Moves expression 0 0) :
    ∃ spans', LaidOut source (done ++ (raw ++ ('$' :: '{' :: (expression ++ ['}'])))).length spans'
      (literals ++ [String.ofList (unescapeBefore raw)])
      (holes ++ [⟨String.ofList (Text.trim expression), placeAfter (done ++ raw)⟩]) := by
  let opened := (done ++ raw).length
  let closed := opened + 2 + expression.length
  have literal : slice source done.length opened = raw :=
    slice_eq done raw _ whole rfl List.length_append
  have opens : slice source opened (opened + 2) = ['$', '{'] := by
    apply slice_eq (done ++ raw) ['$', '{'] (expression ++ '}' :: rest) <;> simp [whole, opened]
  have inside : slice source (opened + 2) closed = expression := by
    apply slice_eq (done ++ raw ++ ['$', '{']) expression ('}' :: rest) <;>
      simp [whole, opened, closed, Nat.add_assoc]
  have closes : slice source closed (closed + 1) = ['}'] := by
    apply slice_eq (done ++ raw ++ ['$', '{'] ++ expression) ['}'] rest <;>
      simp [whole, opened, closed] <;> omega
  have before : source.take opened = done ++ raw := by
    rw [whole, ← List.append_assoc, List.take_left]
  have apart : done.length ≤ opened := by simp [opened]
  have spanned := LaidOut.hole laid apart (literal.symm ▸ unopened)
    (literal.symm ▸ unguarded) opens (Nat.le_add_right _ _) closes
    (inside.symm ▸ balanced)
  rw [literal, inside, before] at spanned
  have reached : (done ++ (raw ++ ('$' :: '{' :: (expression ++ ['}'])))).length = closed + 1 := by
    simp [opened, closed]
    omega
  exact ⟨_, reached ▸ spanned⟩

end Slices

section Agreement

variable {progress : Progress} {reading : Reading} {rest : List Char}

theorem Agrees.outside (agrees : Agrees progress reading rest) (outside : progress.context = .literal) :
    (∃ backslashes dollar, reading.mode = .literal backslashes dollar) ∧ progress.expression = "" := by
  obtain ⟨literals, holes, literal, expression, place, context⟩ := progress
  obtain ⟨done, expressions, text, mode⟩ := reading
  obtain ⟨-, -, same⟩ := agrees
  cases outside
  cases same with
  | literal backslashes dollar ready copied unused => exact ⟨⟨backslashes, dollar, rfl⟩, unused⟩

theorem Agrees.inside (agrees : Agrees progress reading rest) {opened : Position}
    (inside : progress.context.opened? = some opened) :
    (∃ nesting, reading.mode = .hole nesting) ∧ progress.expression = String.ofList reading.text ∧
      progress.literal = "" := by
  obtain ⟨literals, holes, literal, expression, place, context⟩ := progress
  obtain ⟨done, expressions, text, mode⟩ := reading
  obtain ⟨-, -, same⟩ := agrees
  cases same with
  | literal => cases inside
  | code _ braces unused copied => exact ⟨⟨_, rfl⟩, copied, unused⟩
  | quoted _ braces quote escaped unused copied => exact ⟨⟨_, rfl⟩, copied, unused⟩

theorem Agrees.outermost (agrees : Agrees progress reading rest) {opened : Position}
    (outermost : progress.context = .expression opened 1) : reading.mode = .hole (.code 0) := by
  obtain ⟨literals, holes, literal, expression, place, context⟩ := progress
  obtain ⟨done, expressions, text, mode⟩ := reading
  obtain ⟨-, -, same⟩ := agrees
  cases outermost
  cases same with
  | code => rfl

theorem afterAll?_ofSource {text : List Char} {nesting : Nesting}
    (inside : (Reading.ofSource text).mode = .hole nesting) :
    (Nesting.code 0).afterAll? (Reading.ofSource text).text = some nesting := by
  have sound : SoundText (Reading.ofSource text).text (Reading.ofSource text).mode :=
    (sound_steps sound_start text).text
  rwa [inside] at sound

theorem split_ok_of_mode {text : List Char} {backslashes : Nat} {dollar : Bool}
    (outside : (Reading.ofSource text).mode = .literal backslashes dollar) :
    ∃ parts, split (String.ofList text) = .ok parts := by
  obtain ⟨read, finished⟩ : ∃ read, (Reading.ofSource text).finish? = some read := by
    rw [Reading.finish?, outside]
    exact ⟨_, rfl⟩
  obtain ⟨parts, splits, -⟩ : SplitsInto (String.ofList text) (read.1.map String.ofList)
      (read.2.map String.ofList) := by
    rw [splitsInto_iff, String.toList_ofList, finished]
    simp [List.map_map, Function.comp_def]
  exact ⟨parts, splits⟩

theorem mode_backslash {backslashes : Nat} {dollar : Bool}
    (outside : reading.mode = .literal backslashes dollar) :
    ∃ backslashes' dollar', (reading.step '\\').mode = .literal backslashes' dollar' := by
  unfold Reading.step
  rw [outside]
  cases dollar with
  | true => exact ⟨1, false, rfl⟩
  | false => exact ⟨backslashes + 1, false, rfl⟩

end Agreement

section Run

variable {source read rest : List Char} {progress : Progress}

/-- Where literal text has been read. -/
def InLiteral (source : List Char) (progress : Progress) (read rest : List Char) : Prop :=
  ∃ done raw spans, LaidOut source done.length spans progress.literals progress.holes ∧
    read = done ++ raw ∧ progress.literal = String.ofList (unescape raw) ∧ Unopened raw ∧ Seam raw rest

/-- Where a hole that opened at `opened` is being read. -/
def InHole (source : List Char) (progress : Progress) (read : List Char) (opened : Position) : Prop :=
  ∃ done raw spans literals, LaidOut source done.length spans literals progress.holes ∧
    progress.literals = literals ++ [String.ofList (unescapeBefore raw)] ∧
    read = done ++ (raw ++ ('$' :: '{' :: progress.expression.toList)) ∧
    Unopened raw ∧ ¬ Guards raw ∧ opened = placeAfter (done ++ raw) ∧
    ∃ parts, split (String.ofList (done ++ raw)) = .ok parts

/-- Where the next character of a source stands. -/
def Situated (source : List Char) (progress : Progress) (read rest : List Char) : Prop :=
  match progress.context.opened? with
  | none => InLiteral source progress read rest
  | some opened => InHole source progress read opened

/-- What the tokens of `read` have made of a source. -/
structure Laid (source : List Char) (progress : Progress) (read rest : List Char) : Prop where
  whole : source = read ++ rest
  agrees : Agrees progress (Reading.ofSource read) rest
  place : progress.place = placeAfter read
  situated : Situated source progress read rest

theorem laid_start (source : List Char) : Laid source .start [] source where
  whole := rfl
  agrees := agrees_start source
  place := rfl
  situated := ⟨[], [], [], .start, rfl, rfl, unopened_nil, seam_nil source⟩

theorem Laid.inLiteral (laid : Laid source progress read rest) (outside : progress.context = .literal) :
    InLiteral source progress read rest := by
  have situated := laid.situated
  unfold Situated at situated
  rwa [outside] at situated

theorem Laid.inHole (laid : Laid source progress read rest) {opened : Position}
    (inside : progress.context.opened? = some opened) : InHole source progress read opened := by
  have situated := laid.situated
  unfold Situated at situated
  rwa [inside] at situated

theorem situated_openHole {after : List Char} (laid : Laid source progress read ('$' :: '{' :: after))
    (outside : progress.context = .literal) :
    Situated source (progress.step .openHole) (read ++ ['$', '{']) after := by
  obtain ⟨done, raw, spans, laidOut, rfl, spelled, unopened, seam⟩ := laid.inLiteral outside
  obtain ⟨⟨backslashes, dollar, mode⟩, unused⟩ := laid.agrees.outside outside
  have last : ¬ ['\\'] <:+ raw := by
    rintro ⟨front, rfl⟩
    exact seam.slash (by simp) after rfl
  have unguarded : unescapeBefore raw = unescape raw :=
    if_neg fun double => last ((List.suffix_append ['\\'] ['\\']).trans double)
  have stepped : progress.step .openHole = { progress.openHole progress.place with
      place := progress.place.afterAll ['$', '{'] } := by
    unfold Progress.step
    rw [outside]
    rfl
  rw [stepped]
  refine ⟨done, raw, spans, progress.literals, laidOut, ?_, ?_, unopened, fun guards => last guards.1,
    laid.place, split_ok_of_mode mode⟩
  · rw [unguarded, ← spelled]
    rfl
  · change _ = done ++ (raw ++ ('$' :: '{' :: progress.expression.toList))
    rw [unused, List.append_assoc]
    rfl

theorem situated_backslashOpen {after : List Char}
    (laid : Laid source progress read ('\\' :: '\\' :: '$' :: '{' :: after))
    (outside : progress.context = .literal) :
    Situated source (progress.step .backslashOpen) (read ++ ['\\', '\\', '$', '{']) after := by
  obtain ⟨done, raw, spans, laidOut, rfl, spelled, unopened, seam⟩ := laid.inLiteral outside
  obtain ⟨⟨backslashes, dollar, mode⟩, unused⟩ := laid.agrees.outside outside
  have seam' : Seam raw ['\\', '\\'] := seam.of_append
  have guarded : unescapeBefore (raw ++ ['\\', '\\']) = unescape raw ++ ['\\'] := by
    rw [unescapeBefore, if_pos (List.suffix_append _ _), unescape_append seam']
    exact List.dropLast_append_of_ne_nil (List.cons_ne_nil _ _)
  have stepped : progress.step .backslashOpen =
      { (progress.keepLiteral ['\\']).openHole (progress.place.afterAll ['\\', '\\']) with
        place := progress.place.afterAll ['\\', '\\', '$', '{'] } := by
    unfold Progress.step
    rw [outside]
    rfl
  rw [stepped]
  refine ⟨done, raw ++ ['\\', '\\'], spans, progress.literals, laidOut, ?_, ?_, ?_,
    fun guards => guards.2 (List.suffix_append _ _), ?_, ?_⟩
  · rw [guarded, String.ofList_append, ← spelled]
    rfl
  · change _ = done ++ (raw ++ ['\\', '\\'] ++ ('$' :: '{' :: progress.expression.toList))
    rw [unused]
    simp
  · refine unopened_append unopened seam' fun before more opens => ?_
    have dollar : '$' ∈ ['\\', '\\'] := by simp [opens]
    simp at dollar
  · rw [laid.place, afterAll_placeAfter, List.append_assoc]
  · obtain ⟨_, _, mode'⟩ := mode_backslash mode
    obtain ⟨_, _, mode''⟩ := mode_backslash mode'
    rw [← List.append_assoc]
    apply split_ok_of_mode
    rw [Reading.ofSource, Reading.steps_append]
    exact mode''

theorem situated_kept {token : Token} {after : List Char}
    (laid : Laid source progress read (token.chars ++ after)) (outside : progress.context = .literal)
    (seam : Seam token.chars after) (some : token.chars ≠ [])
    (guarded : ∀ text, Seam text (token.chars ++ after) →
      ∀ before more, token.chars = before ++ '$' :: '{' :: more → Guards (text ++ before))
    (stepped : progress.step token = { progress.keepLiteral (unescape token.chars) with
      place := progress.place.afterAll token.chars }) :
    Situated source (progress.step token) (read ++ token.chars) after := by
  obtain ⟨done, raw, spans, laidOut, rfl, spelled, unopened, before⟩ := laid.inLiteral outside
  have outside' : (progress.step token).context.opened? = none := by
    rw [stepped]
    exact congrArg Context.opened? outside
  unfold Situated
  rw [outside', stepped]
  refine ⟨done, raw ++ token.chars, spans, laidOut, List.append_assoc _ _ _, ?_,
    unopened_append unopened before.of_append (guarded raw before), seam.append some raw⟩
  rw [unescape_append before.of_append, String.ofList_append, ← spelled]
  rfl

theorem situated_inside {token : Token} {after : List Char} {opened : Position}
    (laid : Laid source progress read (token.chars ++ after))
    (inside : progress.context.opened? = some opened) {context : Context}
    (inside' : context.opened? = some opened)
    (stepped : progress.step token =
      { progress.keepExpression token context with place := progress.place.afterAll token.chars }) :
    Situated source (progress.step token) (read ++ token.chars) after := by
  obtain ⟨done, raw, spans, literals, laidOut, kept, rfl, ended⟩ := laid.inHole inside
  have inside'' : (progress.step token).context.opened? = some opened := by
    rw [stepped]
    exact inside'
  unfold Situated
  rw [inside'', stepped]
  refine ⟨done, raw, spans, literals, laidOut, kept, ?_, ended⟩
  change _ = done ++ (raw ++ ('$' :: '{' :: (progress.expression ++ String.ofList token.chars).toList))
  rw [String.toList_append, String.toList_ofList]
  simp

theorem situated_closed {after : List Char} {opened : Position}
    (laid : Laid source progress read ('}' :: after))
    (outermost : progress.context = .expression opened 1)
    (stepped : progress.step .closeBrace =
      { progress.closeHole opened with place := progress.place.afterAll ['}'] }) :
    Situated source (progress.step .closeBrace) (read ++ ['}']) after := by
  have inside : progress.context.opened? = some opened := by
    rw [outermost]
    rfl
  obtain ⟨-, copied, unused⟩ := laid.agrees.inside inside
  have balanced : Moves progress.expression.toList 0 0 := by
    rw [copied, String.toList_ofList]
    exact afterAll?_ofSource (laid.agrees.outermost outermost)
  obtain ⟨done, raw, spans, literals, laidOut, kept, rfl, unopened, unguarded, rfl, -⟩ := laid.inHole inside
  have whole : source = done ++ (raw ++ ('$' :: '{' :: (progress.expression.toList ++ '}' :: after))) := by
    rw [laid.whole]
    simp
  obtain ⟨spans', closed⟩ := laidOut.close whole unopened unguarded balanced
  rw [stepped]
  refine ⟨done ++ (raw ++ ('$' :: '{' :: (progress.expression.toList ++ ['}']))), [], spans', ?_, ?_, ?_,
    unopened_nil, seam_nil after⟩
  · change LaidOut source _ spans' progress.literals (progress.holes ++ [_])
    rw [kept]
    exact closed
  · simp
  · exact unused

theorem situated_next {c : Char} (laid : Laid source progress read (c :: rest)) :
    Situated source (progress.step (next c rest).1) (read ++ (next c rest).1.chars) (next c rest).2 := by
  have seam := seam_next c rest
  have slash (run : List Char) (token : (next c rest).1 = .text run) : '\\' ∉ run := fun member =>
    Bool.noConfusion ((ordinary_of_next token).2 _ member)
  have dollar (run : List Char) (token : (next c rest).1 = .text run) : '$' ∉ run := fun member =>
    Bool.noConfusion ((ordinary_of_next token).2 _ member)
  obtain ⟨tail, some⟩ := chars_next_eq_cons c rest
  rw [← chars_next c rest] at laid
  generalize (next c rest).1 = token at *
  generalize (next c rest).2 = after at *
  cases inside : progress.context.opened? with
  | none =>
    have outside := literal_of_opened? inside
    by_cases single : token = .openHole
    · subst single
      exact situated_openHole laid outside
    · by_cases double : token = .backslashOpen
      · subst double
        exact situated_backslashOpen laid outside
      · exact situated_kept laid outside seam (by simp [some])
          (fun _ => guards_of_chars dollar ⟨single, double⟩)
          (step_literal outside slash ⟨single, double⟩)
  | some opened =>
    obtain ⟨context, inside', stepped⟩ | ⟨rfl, ⟨depth, outermost, rfl⟩, stepped⟩ := step_hole inside token
    · exact situated_inside laid inside inside' stepped
    · exact situated_closed laid outermost stepped

/-- One more token keeps the layout of what has been read. -/
theorem laid_next {c : Char} (laid : Laid source progress read (c :: rest)) :
    Laid source (progress.step (next c rest).1) (read ++ (next c rest).1.chars) (next c rest).2 where
  whole := by rw [laid.whole, List.append_assoc, chars_next]
  agrees := by
    rw [Reading.ofSource, Reading.steps_append]
    exact agrees_next laid.agrees
  place := by
    rw [← afterAll_placeAfter, ← laid.place]
    rfl
  situated := situated_next laid

theorem laid_scan (rest : List Char) (laid : Laid source progress read rest) :
    Laid source ((scan rest).foldl Progress.step progress) source [] := by
  fun_induction scan rest generalizing progress read with
  | case1 =>
    obtain rfl : source = read := by rw [laid.whole, List.append_nil]
    exact laid
  | case2 c rest _ ih => exact ih (laid_next laid)

end Run

theorem neverCloses_of_afterAll? {text : List Char} {nesting : Nesting}
    (inside : (Nesting.code 0).afterAll? text = some nesting) : NeverCloses text := by
  rintro expression rest rfl closed
  rw [afterAll?_append, closed] at inside
  cases inside

/-- The holes of a source stand at spans in order, each of them balanced. A hole has the trimmed text
of its span for its expression and the place of its dollar sign for its position; the literals are
the text before, between and after the spans. A source that is refused has an opening, at the place
that is reported, such that the text before it splits and the text after it never closes the hole. -/
theorem split_laidOut (source : String) :
    match split source with
    | .ok parts => ∃ reached spans literals,
        LaidOut source.toList reached spans literals parts.holes ∧
        Unopened (source.toList.drop reached) ∧
        parts.literals = literals ++ [String.ofList (unescape (source.toList.drop reached))]
    | .error opened => ∃ before after, source.toList = before ++ '$' :: '{' :: after ∧
        opened = placeAfter before ∧ (∃ parts, split (String.ofList before) = .ok parts) ∧
        NeverCloses after := by
  have laid := laid_scan source.toList (laid_start source.toList)
  unfold split
  generalize (scan source.toList).foldl Progress.step .start = progress at laid ⊢
  cases inside : progress.context.opened? with
  | none =>
    have outside := literal_of_opened? inside
    obtain ⟨done, raw, spans, laidOut, whole, spelled, unopened, -⟩ := laid.inLiteral outside
    have left : source.toList.drop done.length = raw := by rw [whole, List.drop_left]
    rw [finish_literal outside, spelled, ← left]
    exact ⟨done.length, spans, progress.literals, laidOut, left.symm ▸ unopened, rfl⟩
  | some opened =>
    obtain ⟨done, raw, spans, literals, laidOut, kept, whole, -, -, place, splits⟩ := laid.inHole inside
    obtain ⟨⟨nesting, mode⟩, copied, -⟩ := laid.agrees.inside inside
    rw [finish_hole inside]
    refine ⟨done ++ raw, progress.expression.toList, ?_, place, splits, ?_⟩
    · rw [whole, List.append_assoc]
    · rw [copied, String.toList_ofList]
      exact neverCloses_of_afterAll? (afterAll?_ofSource mode)

end BlockTemplates.Source
