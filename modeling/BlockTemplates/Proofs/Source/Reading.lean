import BlockTemplates.Template

/-! A source read one character at a time. In literal text only the backslashes and the dollar sign
just read are held back, in a hole only what is open counts. Main statement: `split_reads`, the
longest tokens split a source in the same way. -/

namespace BlockTemplates.Source

inductive Quote where
  | double
  | single
  deriving Repr, DecidableEq, Inhabited

def Quote.mark : Quote → Char
  | double => '"'
  | single => '\''

/-- What is open at a place of an expression. -/
inductive Nesting where
  | code (braces : Nat)
  /-- Some braces and a string; `escaped` just after a backslash. -/
  | quoted (braces : Nat) (quote : Quote) (escaped : Bool)
  deriving Repr, DecidableEq, Inhabited

namespace Nesting

/-- What is open after one more character. There is none when it closes a brace that was not
opened. -/
def after? : Nesting → Char → Option Nesting
  | code braces, c =>
    if c = '{' then some (code (braces + 1))
    else if c = '}' then if braces = 0 then none else some (code (braces - 1))
    else if c = '"' then some (quoted braces .double false)
    else if c = '\'' then some (quoted braces .single false)
    else some (code braces)
  | quoted braces quote true, _ => some (quoted braces quote false)
  | quoted braces quote false, c =>
    if c = '\\' then some (quoted braces quote true)
    else if c = quote.mark then some (code braces)
    else some (quoted braces quote false)

def afterAll? (nesting : Nesting) (text : List Char) : Option Nesting := text.foldlM after? nesting

end Nesting

/-- What the next character of a source belongs to. -/
inductive Mode where
  /-- Literal text, with a run of backslashes and perhaps a dollar sign after it held back. -/
  | literal (backslashes : Nat) (dollar : Bool)
  | hole (nesting : Nesting)
  deriving Repr, DecidableEq, Inhabited

def held (backslashes : Nat) (dollar : Bool) : List Char :=
  List.replicate backslashes '\\' ++ if dollar then ['$'] else []

/-- What has been read: the finished literals and expressions and the text of the one being read. -/
structure Reading where
  literals : List (List Char)
  expressions : List (List Char)
  text : List Char
  mode : Mode
  deriving Repr, DecidableEq, Inhabited

namespace Reading

def start : Reading := ⟨[], [], [], .literal 0 false⟩

def openHole (reading : Reading) (tail : List Char) : Reading :=
  ⟨reading.literals ++ [reading.text ++ tail], reading.expressions, [], .hole (.code 0)⟩

def closeHole (reading : Reading) : Reading :=
  ⟨reading.literals, reading.expressions ++ [Text.trim reading.text], [], .literal 0 false⟩

def copy (reading : Reading) (backslashes : Nat) (c : Char) : Reading :=
  if c = '\\' then { reading with mode := .literal (backslashes + 1) false }
  else if c = '$' then { reading with mode := .literal backslashes true }
  else { reading with text := reading.text ++ held backslashes false ++ [c], mode := .literal 0 false }

/-- A character after a run of backslashes and a dollar sign. A brace opens a hole, unless there is
just one backslash; of more backslashes one is dropped. -/
def afterDollar (reading : Reading) (backslashes : Nat) (c : Char) : Reading :=
  if c = '{' then
    match backslashes with
    | 0 => reading.openHole []
    | 1 => { reading with text := reading.text ++ ['$', '{'], mode := .literal 0 false }
    | more + 2 => reading.openHole (held (more + 1) false)
  else copy { reading with text := reading.text ++ held backslashes true } 0 c

def step (reading : Reading) (c : Char) : Reading :=
  match reading.mode with
  | .literal backslashes true => reading.afterDollar backslashes c
  | .literal backslashes false => reading.copy backslashes c
  | .hole nesting =>
    match nesting.after? c with
    | some inner => { reading with text := reading.text ++ [c], mode := .hole inner }
    | none => reading.closeHole

def steps (reading : Reading) (text : List Char) : Reading := text.foldl step reading

def finish? (reading : Reading) : Option (List (List Char) × List (List Char)) :=
  match reading.mode with
  | .literal backslashes dollar =>
    some (reading.literals ++ [reading.text ++ held backslashes dollar], reading.expressions)
  | .hole _ => none

def ofSource (source : List Char) : Reading := start.steps source

@[simp]
theorem steps_nil (reading : Reading) : reading.steps [] = reading := rfl

@[simp]
theorem steps_cons (reading : Reading) (c : Char) (text : List Char) :
    reading.steps (c :: text) = (reading.step c).steps text := rfl

theorem steps_append (reading : Reading) (first second : List Char) :
    reading.steps (first ++ second) = (reading.steps first).steps second := by
  simp [steps, List.foldl_append]

end Reading

@[simp]
theorem held_zero : held 0 false = [] := rfl

theorem held_succ (backslashes : Nat) : held (backslashes + 1) false = held backslashes false ++ ['\\'] := by
  simp [held, List.replicate_succ']

theorem held_dollar (backslashes : Nat) : held backslashes true = held backslashes false ++ ['$'] := by
  simp [held]

/-- Nothing that is held back is the beginning of a longer token. -/
def Ready (backslashes : Nat) (dollar : Bool) (rest : List Char) : Prop :=
  if dollar then ∀ after, rest ≠ '{' :: after
  else backslashes ≠ 0 → ∀ after, rest ≠ '$' :: '{' :: after ∧ rest ≠ '\\' :: '$' :: '{' :: after

theorem ready_zero (rest : List Char) : Ready 0 false rest := by
  simp [Ready]

def Quote.token : Quote → Token
  | double => .doubleQuote
  | single => .singleQuote

/-- The place that tokens have reached is the place that characters have reached, with the same
literal and expression read so far. -/
inductive SamePlace (rest : List Char) (literal expression : String) (text : List Char) :
    Context → Mode → Prop
  | literal (backslashes : Nat) (dollar : Bool) (ready : Ready backslashes dollar rest)
      (copied : literal = String.ofList (text ++ held backslashes dollar))
      (unused : expression = "") :
      SamePlace rest literal expression text .literal (.literal backslashes dollar)
  | code (opened : Position) (braces : Nat) (unused : literal = "")
      (copied : expression = String.ofList text) :
      SamePlace rest literal expression text (.expression opened (braces + 1)) (.hole (.code braces))
  | quoted (opened : Position) (braces : Nat) (quote : Quote) (escaped : Bool)
      (unused : literal = "") (copied : expression = String.ofList text) :
      SamePlace rest literal expression text (.quoted opened (braces + 1) quote.token escaped)
        (.hole (.quoted braces quote escaped))

structure Agrees (progress : Progress) (reading : Reading) (rest : List Char) : Prop where
  literals : progress.literals = reading.literals.map String.ofList
  holes : progress.holes.map Hole.source = reading.expressions.map String.ofList
  place : SamePlace rest progress.literal progress.expression reading.text progress.context reading.mode

section Characters

variable (literals expressions : List (List Char)) (text : List Char)

theorem step_copied (backslashes : Nat) {c : Char} (plain : c ≠ '\\' ∧ c ≠ '$') :
    Reading.step ⟨literals, expressions, text, .literal backslashes false⟩ c =
      ⟨literals, expressions, text ++ held backslashes false ++ [c], .literal 0 false⟩ := by
  simp [Reading.step, Reading.copy, plain]

theorem steps_ordinary {run : List Char} (ordinary : ∀ c ∈ run, isSpecial c = false) :
    Reading.steps ⟨literals, expressions, text, .literal 0 false⟩ run =
      ⟨literals, expressions, text ++ run, .literal 0 false⟩ := by
  induction run generalizing text with
  | nil => simp
  | cons c run ih =>
    rw [List.forall_mem_cons] at ordinary
    have apart : c ≠ '\\' ∧ c ≠ '$' := by
      constructor <;> (rintro rfl; simp [isSpecial] at ordinary)
    rw [Reading.steps_cons, step_copied _ _ _ 0 apart, ih _ ordinary.2]
    simp

theorem steps_hole {nesting inner : Nesting} {more : List Char}
    (inside : nesting.afterAll? more = some inner) :
    Reading.steps ⟨literals, expressions, text, .hole nesting⟩ more =
      ⟨literals, expressions, text ++ more, .hole inner⟩ := by
  induction more generalizing text nesting with
  | nil => simp_all [Nesting.afterAll?]
  | cons c more ih =>
    rw [Nesting.afterAll?, List.foldlM_cons, Option.bind_eq_bind, Option.bind_eq_some_iff] at inside
    obtain ⟨next, stepped, inside⟩ := inside
    rw [Reading.steps_cons]
    simp only [Reading.step, stepped]
    rw [ih _ inside]
    simp

end Characters

section Tokens

theorem ordinary_of_next {c : Char} {rest run : List Char} (token : (next c rest).1 = .text run) :
    run ≠ [] ∧ ∀ x ∈ run, isSpecial x = false := by
  unfold next at token
  split at token <;> first
    | exact Token.noConfusion token
    | skip
  have first : isSpecial c = false := by simp_all [isSpecial]
  obtain rfl := Token.text.inj token
  refine ⟨List.cons_ne_nil _ _, List.forall_mem_cons.mpr ⟨first, fun x member => ?_⟩⟩
  simpa using List.all_eq_true.mp List.all_takeWhile x member

theorem chars_next_eq_cons (c : Char) (rest : List Char) :
    ∃ tail, (next c rest).1.chars = c :: tail := by
  have whole := chars_next c rest
  cases same : (next c rest).1.chars with
  | nil =>
    have shorter := next_le c rest
    rw [same, List.nil_append] at whole
    rw [whole] at shorter
    exact absurd shorter (Nat.not_succ_le_self _)
  | cons first tail =>
    rw [same] at whole
    exact ⟨tail, by rw [(List.cons.inj whole).1]⟩

theorem afterAll?_code {run : List Char} (ordinary : ∀ c ∈ run, isSpecial c = false) (braces : Nat) :
    (Nesting.code braces).afterAll? run = some (.code braces) := by
  induction run with
  | nil => rfl
  | cons c run ih =>
    rw [List.forall_mem_cons] at ordinary
    have same : (Nesting.code braces).after? c = some (.code braces) := by
      have := ordinary.1
      simp_all [isSpecial, Nesting.after?]
    rw [Nesting.afterAll?, List.foldlM_cons, same]
    exact ih ordinary.2

theorem afterAll?_quoted {run : List Char} (ordinary : ∀ c ∈ run, isSpecial c = false) (braces : Nat)
    (quote : Quote) :
    (Nesting.quoted braces quote false).afterAll? run = some (.quoted braces quote false) := by
  induction run with
  | nil => rfl
  | cons c run ih =>
    rw [List.forall_mem_cons] at ordinary
    have apart : c ≠ '\\' ∧ c ≠ quote.mark := by
      constructor
      · rintro rfl
        exact Bool.noConfusion ordinary.1
      · rintro rfl
        cases quote <;> exact Bool.noConfusion ordinary.1
    have same : (Nesting.quoted braces quote false).after? c = some (.quoted braces quote false) := by
      simp [Nesting.after?, apart]
    rw [Nesting.afterAll?, List.foldlM_cons, same]
    exact ih ordinary.2

/-- The character after a backslash ends the escape, whatever token it begins. -/
theorem afterAll?_escaped {token : Token}
    (ordinary : ∀ run, token = .text run → run ≠ [] ∧ ∀ x ∈ run, isSpecial x = false) (braces : Nat)
    (quote : Quote) :
    (Nesting.quoted braces quote true).afterAll? token.chars = some (.quoted braces quote false) := by
  cases token with
  | text run =>
    cases run with
    | nil => exact absurd rfl (ordinary [] rfl).1
    | cons c run =>
      have later := (List.forall_mem_cons.mp (ordinary (c :: run) rfl).2).2
      exact afterAll?_quoted later braces quote
  | _ => cases quote <;> rfl

theorem afterAll?_unescaped {token : Token} {quote : Quote}
    (ordinary : ∀ run, token = .text run → ∀ x ∈ run, isSpecial x = false)
    (slash : token ≠ .backslash) (other : token ≠ quote.token) (braces : Nat) :
    (Nesting.quoted braces quote false).afterAll? token.chars = some (.quoted braces quote false) := by
  cases token with
  | text run => exact afterAll?_quoted (ordinary run rfl) braces quote
  | backslash => exact absurd rfl slash
  | doubleQuote =>
    cases quote with
    | double => exact absurd rfl other
    | single => rfl
  | singleQuote =>
    cases quote with
    | double => rfl
    | single => exact absurd rfl other
  | _ => cases quote <;> rfl

theorem afterAll?_quote (braces : Nat) (quote : Quote) :
    (Nesting.quoted braces quote false).afterAll? quote.token.chars = some (.code braces) := by
  cases quote <;> rfl

end Tokens

section Steps

variable {literals expressions : List (List Char)} {text : List Char} {progress : Progress}

/-- A token that belongs to the literal as it stands and at which no longer token can begin. -/
private theorem agrees_copied {backslashes : Nat} {token : Token} {c : Char} {before rest : List Char}
    (agrees : Agrees progress ⟨literals, expressions, text, .literal backslashes false⟩ before)
    (chars : token.chars = [c]) (plain : c ≠ '\\' ∧ c ≠ '$')
    (kept : ∀ progress : Progress, progress.inLiteral token = progress.keepLiteral [c]) :
    Agrees (progress.step token)
      (Reading.steps ⟨literals, expressions, text, .literal backslashes false⟩ token.chars) rest := by
  obtain ⟨done, holes, literal, expression, place, context⟩ := progress
  obtain ⟨sameLiterals, sameHoles, same⟩ := agrees
  cases same with
  | literal _ _ ready copied unused =>
  rw [chars, Reading.steps_cons, step_copied _ _ _ backslashes plain, Reading.steps_nil]
  simp only [Progress.step, kept]
  refine ⟨sameLiterals, sameHoles, .literal 0 false (ready_zero rest) ?_ unused⟩
  change literal ++ String.ofList [c] = _
  dsimp only at copied
  rw [copied, ← String.ofList_append, held_zero, List.append_nil]

private theorem agrees_kept {nesting inner : Nesting} {token : Token} {context before : Context}
    {rest : List Char} {done : List String} {holes : List Hole} {expression : String}
    {place : Position} (sameLiterals : done = literals.map String.ofList)
    (sameHoles : holes.map Hole.source = expressions.map String.ofList)
    (copied : expression = String.ofList text) (inside : nesting.afterAll? token.chars = some inner)
    (same : ∀ expression text, expression = String.ofList text →
      SamePlace rest "" expression text context (.hole inner)) :
    Agrees { Progress.keepExpression ⟨done, holes, "", expression, place, before⟩ token context
        with place := place.afterAll token.chars }
      (Reading.steps ⟨literals, expressions, text, .hole nesting⟩ token.chars) rest := by
  rw [steps_hole literals expressions text inside]
  refine ⟨sameLiterals, sameHoles, same _ _ ?_⟩
  rw [String.ofList_append, ← copied]
  rfl

private theorem agrees_code {braces : Nat} {token : Token} {before rest : List Char}
    (ordinary : ∀ run, token = .text run → ∀ x ∈ run, isSpecial x = false)
    (agrees : Agrees progress ⟨literals, expressions, text, .hole (.code braces)⟩ before) :
    Agrees (progress.step token)
      (Reading.steps ⟨literals, expressions, text, .hole (.code braces)⟩ token.chars) rest := by
  obtain ⟨done, holes, literal, expression, place, context⟩ := progress
  obtain ⟨sameLiterals, sameHoles, same⟩ := agrees
  cases same with
  | code opened _ unused copied =>
  dsimp only at unused copied
  subst unused
  have inner (braces : Nat) (expression : String) (text : List Char)
      (copied : expression = String.ofList text) :
      SamePlace rest "" expression text (.expression opened (braces + 1)) (.hole (.code braces)) :=
    .code opened braces rfl copied
  have level := inner braces
  have deeper := inner (braces + 1)
  cases token with
  | openHole => exact agrees_kept sameLiterals sameHoles copied rfl deeper
  | escapedOpen => exact agrees_kept sameLiterals sameHoles copied rfl deeper
  | backslashOpen => exact agrees_kept sameLiterals sameHoles copied rfl deeper
  | openBrace => exact agrees_kept sameLiterals sameHoles copied rfl deeper
  | closeBrace =>
    cases braces with
    | zero =>
      refine ⟨sameLiterals, ?_, .literal 0 false (ready_zero rest) rfl rfl⟩
      change (holes ++ [(⟨Text.trimString expression, opened⟩ : Hole)]).map Hole.source =
        (expressions ++ [Text.trim text]).map String.ofList
      rw [List.map_append, List.map_append, sameHoles, copied]
      simp [Text.trimString]
    | succ braces =>
      exact agrees_kept sameLiterals sameHoles copied rfl (inner braces)
  | doubleQuote =>
    exact agrees_kept sameLiterals sameHoles copied rfl fun _ _ =>
      .quoted opened braces .double false rfl
  | singleQuote =>
    exact agrees_kept sameLiterals sameHoles copied rfl fun _ _ =>
      .quoted opened braces .single false rfl
  | backslash => exact agrees_kept sameLiterals sameHoles copied rfl level
  | dollar => exact agrees_kept sameLiterals sameHoles copied rfl level
  | text run =>
    exact agrees_kept sameLiterals sameHoles copied (afterAll?_code (ordinary run rfl) braces) level

private theorem agrees_quoted {braces : Nat} {quote : Quote} {escaped : Bool} {token : Token}
    {before rest : List Char}
    (ordinary : ∀ run, token = .text run → run ≠ [] ∧ ∀ x ∈ run, isSpecial x = false)
    (agrees : Agrees progress ⟨literals, expressions, text, .hole (.quoted braces quote escaped)⟩ before) :
    Agrees (progress.step token)
      (Reading.steps ⟨literals, expressions, text, .hole (.quoted braces quote escaped)⟩ token.chars)
      rest := by
  obtain ⟨done, holes, literal, expression, place, context⟩ := progress
  obtain ⟨sameLiterals, sameHoles, same⟩ := agrees
  cases same with
  | quoted opened _ _ _ unused copied =>
  dsimp only at unused copied
  subst unused
  have level (escaped : Bool) (expression : String) (text : List Char)
      (copied : expression = String.ofList text) :
      SamePlace rest "" expression text (.quoted opened (braces + 1) quote.token escaped)
        (.hole (.quoted braces quote escaped)) :=
    .quoted opened braces quote escaped rfl copied
  cases escaped with
  | true =>
    exact agrees_kept sameLiterals sameHoles copied (afterAll?_escaped ordinary braces quote)
      (level false)
  | false =>
    by_cases slash : token = .backslash
    · subst slash
      exact agrees_kept sameLiterals sameHoles copied rfl (level true)
    · by_cases closes : token = quote.token
      · subst closes
        simp only [Progress.step, Progress.inQuoted, slash, Bool.false_eq_true, if_false, if_true]
        exact agrees_kept sameLiterals sameHoles copied (afterAll?_quote braces quote) fun _ _ =>
          .code opened braces rfl
      · have inside := afterAll?_unescaped (fun run text => (ordinary run text).2) slash closes braces
        simp only [Progress.step, Progress.inQuoted, slash, closes, Bool.false_eq_true, if_false]
        exact agrees_kept sameLiterals sameHoles copied inside (level false)

private theorem agrees_settled {backslashes : Nat} {dollar : Bool} {c : Char} {rest : List Char}
    (agrees : Agrees progress ⟨literals, expressions, text, .literal backslashes dollar⟩ (c :: rest)) :
    ∃ settled pending,
      Agrees progress ⟨literals, expressions, settled, .literal pending false⟩ (c :: rest) ∧
      Reading.step ⟨literals, expressions, text, .literal backslashes dollar⟩ c =
        Reading.step ⟨literals, expressions, settled, .literal pending false⟩ c := by
  cases dollar with
  | false => exact ⟨text, backslashes, agrees, rfl⟩
  | true =>
    obtain ⟨done, holes, literal, expression, place, context⟩ := progress
    obtain ⟨sameLiterals, sameHoles, same⟩ := agrees
    cases same with
    | literal _ _ ready copied unused =>
    refine ⟨text ++ held backslashes true, 0, ⟨sameLiterals, sameHoles,
      .literal 0 false (ready_zero _) (by simpa using copied) unused⟩, ?_⟩
    have apart : c ≠ '{' := by
      rintro rfl
      exact ready rest rfl
    simp [Reading.step, Reading.afterDollar, Reading.copy, apart]

private theorem agrees_unheld {backslashes : Nat} {c : Char} {rest : List Char}
    (agrees : Agrees progress ⟨literals, expressions, text, .literal backslashes false⟩ (c :: rest)) :
    Agrees (progress.step (next c rest).1)
      (Reading.steps ⟨literals, expressions, text, .literal backslashes false⟩ (next c rest).1.chars)
      (next c rest).2 := by
  have copy {token : Token} {after : List Char} (chars : token.chars = [c])
      (plain : c ≠ '\\' ∧ c ≠ '$')
      (kept : ∀ progress : Progress, progress.inLiteral token = progress.keepLiteral [c]) :
      Agrees (progress.step token)
        (Reading.steps ⟨literals, expressions, text, .literal backslashes false⟩ token.chars) after :=
    agrees_copied agrees chars plain kept
  obtain ⟨done, holes, literal, expression, place, context⟩ := progress
  obtain ⟨sameLiterals, sameHoles, same⟩ := agrees
  cases same with
  | literal _ _ ready copied unused =>
  dsimp only at sameLiterals sameHoles copied unused
  unfold next
  split
  case h_1 after =>
    refine ⟨?_, sameHoles, .code _ 0 rfl unused⟩
    change done ++ [literal ++ String.ofList ['\\']] =
      (literals ++ [text ++ held (backslashes + 1) false]).map String.ofList
    rw [List.map_append, ← sameLiterals, copied, ← String.ofList_append, List.append_assoc, ← held_succ]
    rfl
  case h_2 after =>
    have alone : backslashes = 0 :=
      Decidable.byContradiction fun some => (ready some after).2 rfl
    subst alone
    refine ⟨sameLiterals, sameHoles, .literal 0 false (ready_zero _) ?_ unused⟩
    change literal ++ String.ofList ['$', '{'] = String.ofList (text ++ ['$', '{'] ++ held 0 false)
    rw [copied, ← String.ofList_append, held_zero, List.append_nil, List.append_nil]
  case h_3 after =>
    have alone : backslashes = 0 :=
      Decidable.byContradiction fun some => (ready some after).1 rfl
    subst alone
    refine ⟨?_, sameHoles, .code _ 0 rfl unused⟩
    change done ++ [literal] = (literals ++ [text ++ []]).map String.ofList
    rw [List.map_append, ← sameLiterals, copied, held_zero]
    rfl
  case h_4 notDouble notSingle =>
    have free : Ready (backslashes + 1) false rest :=
      fun _ after => ⟨notSingle after, notDouble after⟩
    refine ⟨sameLiterals, sameHoles, .literal (backslashes + 1) false free ?_ unused⟩
    change literal ++ String.ofList ['\\'] = String.ofList (text ++ held (backslashes + 1) false)
    rw [copied, ← String.ofList_append, List.append_assoc, ← held_succ]
  case h_5 notOpen =>
    refine ⟨sameLiterals, sameHoles, .literal backslashes true notOpen ?_ unused⟩
    change literal ++ String.ofList ['$'] = String.ofList (text ++ held backslashes true)
    rw [copied, ← String.ofList_append, List.append_assoc, ← held_dollar]
  case h_6 => exact copy rfl (by decide) fun _ => rfl
  case h_7 => exact copy rfl (by decide) fun _ => rfl
  case h_8 => exact copy rfl (by decide) fun _ => rfl
  case h_9 => exact copy rfl (by decide) fun _ => rfl
  case h_10 slash dollar _ _ _ _ _ _ _ =>
    have ordinary : ∀ x ∈ rest.takeWhile (!isSpecial ·), isSpecial x = false := fun x member => by
      simpa using List.all_eq_true.mp List.all_takeWhile x member
    simp only [Token.chars]
    rw [Reading.steps_cons, step_copied _ _ _ backslashes ⟨slash, dollar⟩,
      steps_ordinary _ _ _ ordinary]
    refine ⟨sameLiterals, sameHoles, .literal 0 false (ready_zero _) ?_ unused⟩
    change literal ++ String.ofList (c :: rest.takeWhile (!isSpecial ·)) = _
    rw [copied, ← String.ofList_append]
    simp

/-- One token is as many steps as it has characters. -/
theorem agrees_next {reading : Reading} {c : Char} {rest : List Char}
    (agrees : Agrees progress reading (c :: rest)) :
    Agrees (progress.step (next c rest).1) (reading.steps (next c rest).1.chars) (next c rest).2 := by
  have ordinary (run : List Char) (token : (next c rest).1 = .text run) := ordinary_of_next token
  obtain ⟨literals, expressions, text, mode⟩ := reading
  cases mode with
  | literal backslashes dollar =>
    obtain ⟨settled, pending, agrees', stepped⟩ := agrees_settled agrees
    obtain ⟨tail, chars⟩ := chars_next_eq_cons c rest
    rw [chars, Reading.steps_cons, stepped, ← Reading.steps_cons, ← chars]
    exact agrees_unheld agrees'
  | hole nesting =>
    cases nesting with
    | code braces => exact agrees_code (fun run token => (ordinary run token).2) agrees
    | quoted braces quote escaped => exact agrees_quoted ordinary agrees

end Steps

theorem agrees_scan {progress : Progress} {reading : Reading} (source : List Char)
    (agrees : Agrees progress reading source) :
    Agrees ((scan source).foldl Progress.step progress) (reading.steps source) [] := by
  fun_induction scan source generalizing progress reading with
  | case1 => exact agrees
  | case2 c rest _ ih =>
    have whole : reading.steps (c :: rest) =
        (reading.steps (next c rest).1.chars).steps (next c rest).2 := by
      rw [← Reading.steps_append, chars_next]
    rw [whole, List.foldl_cons]
    exact ih (agrees_next agrees)

theorem agrees_start (source : List Char) : Agrees .start .start source :=
  ⟨rfl, rfl, .literal 0 false (ready_zero source) rfl rfl⟩

def SplitsInto (source : String) (literals expressions : List String) : Prop :=
  ∃ parts, split source = .ok parts ∧ parts.literals = literals ∧
    parts.holes.map Hole.source = expressions

private theorem split_ok {source : String} {read : List (List Char) × List (List Char)}
    (finished : (Reading.ofSource source.toList).finish? = some read) :
    SplitsInto source (read.1.map String.ofList) (read.2.map String.ofList) := by
  have agrees := agrees_scan source.toList (agrees_start source.toList)
  change Agrees _ (Reading.ofSource source.toList) [] at agrees
  unfold SplitsInto split
  generalize (scan source.toList).foldl Progress.step .start = progress at agrees ⊢
  generalize Reading.ofSource source.toList = reading at agrees finished
  obtain ⟨done, holes, literal, expression, place, context⟩ := progress
  obtain ⟨literals, expressions, text, mode⟩ := reading
  obtain ⟨sameLiterals, sameHoles, same⟩ := agrees
  cases same with
  | literal backslashes dollar ready copied unused =>
    dsimp only at sameLiterals sameHoles copied
    obtain rfl := Option.some.inj finished
    exact ⟨_, rfl, by simp [sameLiterals, copied], sameHoles⟩
  | code => simp [Reading.finish?] at finished
  | quoted => simp [Reading.finish?] at finished

private theorem split_error {source : String}
    (unfinished : (Reading.ofSource source.toList).finish? = none) :
    ∃ opened, split source = .error opened := by
  have agrees := agrees_scan source.toList (agrees_start source.toList)
  change Agrees _ (Reading.ofSource source.toList) [] at agrees
  unfold split
  generalize (scan source.toList).foldl Progress.step .start = progress at agrees ⊢
  generalize Reading.ofSource source.toList = reading at agrees unfinished
  obtain ⟨done, holes, literal, expression, place, context⟩ := progress
  obtain ⟨literals, expressions, text, mode⟩ := reading
  obtain ⟨-, -, same⟩ := agrees
  cases same with
  | literal => simp [Reading.finish?] at unfinished
  | code opened => exact ⟨opened, rfl⟩
  | quoted opened => exact ⟨opened, rfl⟩

private theorem map_toList_ofList (texts : List (List Char)) :
    (texts.map String.ofList).map String.toList = texts := by
  simp [List.map_map, Function.comp_def]

private theorem map_ofList_toList (strings : List String) :
    (strings.map String.toList).map String.ofList = strings := by
  simp [List.map_map, Function.comp_def]

theorem splitsInto_iff {source : String} {literals expressions : List String} :
    SplitsInto source literals expressions ↔
      (Reading.ofSource source.toList).finish? =
        some (literals.map String.toList, expressions.map String.toList) := by
  constructor
  · rintro ⟨parts, done, rfl, rfl⟩
    cases finished : (Reading.ofSource source.toList).finish? with
    | none =>
      obtain ⟨opened, failed⟩ := split_error finished
      simp [done] at failed
    | some read =>
      obtain ⟨parts', done', literals, expressions⟩ := split_ok finished
      obtain rfl := Except.ok.inj (done.symm.trans done')
      rw [literals, expressions, map_toList_ofList, map_toList_ofList]
  · intro finished
    have splits := split_ok finished
    rwa [map_ofList_toList, map_ofList_toList] at splits

theorem finish?_eq_none_iff {reading : Reading} :
    reading.finish? = none ↔ ∃ nesting, reading.mode = .hole nesting := by
  unfold Reading.finish?
  cases reading.mode <;> simp

/-- The longest tokens split a source just as single characters do, into the same literals and
expressions, and fail exactly when the characters end in a hole. -/
theorem split_reads (name source : String) :
    (∀ literals expressions, SplitsInto source literals expressions ↔
      (Reading.ofSource source.toList).finish? =
        some (literals.map String.toList, expressions.map String.toList)) ∧
    (∀ literals expressions, Template.ofSource name source false = .ok ⟨literals, expressions⟩ ↔
      SplitsInto source literals expressions) ∧
    ((∃ opened, split source = .error opened ∧
        Template.ofSource name source false = .error (.templateSyntax name opened)) ↔
      ∃ nesting, (Reading.ofSource source.toList).mode = .hole nesting) := by
  refine ⟨fun literals expressions => splitsInto_iff, fun literals expressions => ?_, ?_⟩
  · unfold Template.ofSource SplitsInto
    cases split source with
    | error opened => simp
    | ok parts => simp
  · rw [← finish?_eq_none_iff]
    constructor
    · rintro ⟨opened, failed, -⟩
      cases finished : (Reading.ofSource source.toList).finish? with
      | none => rfl
      | some read =>
        obtain ⟨parts, done, -⟩ := split_ok finished
        simp [failed] at done
    · intro unfinished
      obtain ⟨opened, failed⟩ := split_error unfinished
      exact ⟨opened, failed, by simp [Template.ofSource, failed]⟩

end BlockTemplates.Source
