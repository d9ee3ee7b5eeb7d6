import BlockTemplates.Proofs.Source.Layout

/-! Sources put side by side. Each of them is split as it is on its own, only the two literals that meet
become one and the places in the second source are counted from the start of the first. Main
statement: `split_append`. -/

namespace BlockTemplates.Source

/-- No token that begins in the text can end behind it, a run of ordinary characters apart. -/
def Settled (text : List Char) : Prop := ∀ c ∈ text.getLast?, c ≠ '$' ∧ c ≠ '\\'

section Tokens

theorem next_ordinary {c : Char} (ordinary : isSpecial c = false) (rest : List Char) :
    next c rest = (.text (c :: rest.takeWhile (!isSpecial ·)), rest.dropWhile (!isSpecial ·)) := by
  unfold next
  split
  case h_10 => rfl
  all_goals cases ordinary

theorem Settled.opening {c : Char} {rest more marks after : List Char} (settled : Settled (c :: rest))
    (unsettled : ∀ x ∈ c :: marks, x = '$' ∨ x = '\\') (whole : rest ++ more = marks ++ '{' :: after) :
    ∃ after', rest = marks ++ '{' :: after' := by
  rw [List.append_cons] at whole
  obtain ⟨back, same, -⟩ | ⟨after', rfl, -⟩ := List.append_eq_append_iff.mp whole
  · obtain rfl | ⟨back, last, rfl⟩ := List.eq_nil_or_concat back
    · exact ⟨[], by rw [← List.append_nil rest, ← same]⟩
    · rw [List.concat_eq_append, ← List.append_assoc] at same
      obtain ⟨rfl, -⟩ := List.append_inj' same rfl
      -- All of the settled text belongs to the opening, its last character as well.
      have some : c :: rest ≠ [] := List.cons_ne_nil _ _
      have member : (c :: rest).getLast some ∈ c :: (rest ++ back) := by
        rw [← List.cons_append]
        exact List.mem_append_left _ (List.getLast_mem some)
      obtain ⟨dollar, slash⟩ := settled _ (List.getLast?_eq_some_getLast some)
      exact ((unsettled _ member).elim dollar slash).elim
  · exact ⟨after', List.append_cons _ _ _ ▸ rfl⟩

theorem next_append {c : Char} {rest : List Char} (special : isSpecial c = true)
    (settled : Settled (c :: rest)) (more : List Char) :
    next c (rest ++ more) = ((next c rest).1, (next c rest).2 ++ more) := by
  simp only [isSpecial, Bool.or_eq_true, decide_eq_true_eq] at special
  rcases special with ((((rfl | rfl) | rfl) | rfl) | rfl) | rfl
  · by_cases opens : ∃ after, rest = [] ++ '{' :: after
    · obtain ⟨after, rfl⟩ := opens
      rfl
    · rw [next.eq_5 rest fun after same => opens ⟨after, same⟩,
        next.eq_5 _ fun after same => opens (settled.opening (by simp) same)]
  · rfl
  · rfl
  · rfl
  · rfl
  · by_cases double : ∃ after, rest = ['\\', '$'] ++ '{' :: after
    · obtain ⟨after, rfl⟩ := double
      rfl
    · by_cases single : ∃ after, rest = ['$'] ++ '{' :: after
      · obtain ⟨after, rfl⟩ := single
        rfl
      · rw [next.eq_4 rest (fun after same => double ⟨after, same⟩) fun after same => single ⟨after, same⟩,
          next.eq_4 _ (fun after same => double (settled.opening (by simp) same))
            fun after same => single (settled.opening (by simp) same)]

end Tokens

section Runs

variable {progress : Progress}

/-- A run of ordinary characters may be read in two parts where it belongs to literal text. -/
theorem step_text_append {first : List Char} (outside : (progress.step (.text first)).context = .literal)
    (second : List Char) :
    (progress.step (.text first)).step (.text second) = progress.step (.text (first ++ second)) := by
  obtain ⟨literals, holes, literal, expression, place, context⟩ := progress
  have places : (place.afterAll first).afterAll second = place.afterAll (first ++ second) :=
    List.foldl_append.symm
  cases context with
  | literal =>
    simp [Progress.step, Progress.inLiteral, Progress.keepLiteral, Token.chars, places, String.append_assoc]
  | expression => cases outside
  | quoted opened depth quote escaped =>
    simp only [Progress.step, Progress.inQuoted, Progress.keepExpression] at outside
    repeat' split at outside
    all_goals cases outside

theorem foldl_scan_text {run : List Char} (outside : (progress.step (.text run)).context = .literal)
    (rest : List Char) :
    (scan rest).foldl Progress.step (progress.step (.text run)) =
      (scan (rest.dropWhile (!isSpecial ·))).foldl Progress.step
        (progress.step (.text (run ++ rest.takeWhile (!isSpecial ·)))) := by
  cases rest with
  | nil => simp
  | cons c rest =>
    cases special : isSpecial c with
    | true => simp [special]
    | false =>
      rw [scan, next_ordinary special, List.foldl_cons, step_text_append outside]
      simp [special]

theorem Settled.of_append {first second : List Char} (settled : Settled (first ++ second)) :
    Settled second := by
  intro c last
  refine settled c ?_
  rw [List.getLast?_append, Option.mem_def.mp last]
  rfl

/-- Behind a settled text that ends outside of holes the tokens are those of the text on its own. -/
theorem foldl_scan_append {first : List Char} (settled : Settled first)
    (outside : ((scan first).foldl Progress.step progress).context = .literal) (second : List Char) :
    (scan (first ++ second)).foldl Progress.step progress =
      (scan second).foldl Progress.step ((scan first).foldl Progress.step progress) := by
  fun_induction scan first generalizing progress with
  | case1 => rfl
  | case2 c rest _ ih =>
    have settled' : Settled (next c rest).2 := Settled.of_append (chars_next c rest ▸ settled)
    rw [List.foldl_cons] at outside
    rw [List.cons_append, scan, List.foldl_cons, List.foldl_cons, ← ih settled' outside]
    cases special : isSpecial c with
    | true => rw [next_append special settled second]
    | false =>
      rw [next_ordinary special] at outside ⊢
      rw [next_ordinary special, List.takeWhile_append, List.dropWhile_append]
      dsimp only at outside ⊢
      have whole := List.takeWhile_append_dropWhile (p := (!isSpecial ·)) (l := rest)
      cases left : rest.dropWhile (!isSpecial ·) with
      | nil =>
        -- The last token of the first text goes on in the second one.
        rw [left, List.append_nil] at whole
        rw [left, whole, scan, List.foldl_nil] at outside
        rw [whole, List.nil_append, foldl_scan_text outside]
        simp
      | cons d after =>
        have short : (rest.takeWhile (!isSpecial ·)).length ≠ rest.length := by
          have lengths := congrArg List.length whole
          rw [left, List.length_append, List.length_cons] at lengths
          omega
        simp [short]

end Runs

/-- The literals of two texts side by side: the two that meet are one. -/
def joinLiterals : List String → List String → List String
  | [last], literal :: literals => (last ++ literal) :: literals
  | literal :: literals, later => literal :: joinLiterals literals later
  | [], later => later

theorem joinLiterals_append_singleton (literals : List String) (last literal : String) (later : List String) :
    joinLiterals (literals ++ [last]) (literal :: later) = literals ++ (last ++ literal) :: later := by
  induction literals with
  | nil => rfl
  | cons first literals ih =>
    rw [List.cons_append, List.cons_append, ← ih]
    cases literals <;> rfl

def Hole.behind (hole : Hole) (before : List Char) : Hole :=
  { hole with position := hole.position.behind before }

def Parts.join (parts : Parts) (before : List Char) (later : Parts) : Parts where
  literals := joinLiterals parts.literals later.literals
  holes := parts.holes ++ later.holes.map (Hole.behind · before)

def Context.behind (before : List Char) : Context → Context
  | .literal => .literal
  | .expression opened depth => .expression (opened.behind before) depth
  | .quoted opened depth quote escaped => .quoted (opened.behind before) depth quote escaped

namespace Progress

/-- What has been read of a text, when `before` stands in front of it and has been read as `first`. -/
def behind (progress : Progress) (before : List Char) (first : Progress) : Progress where
  literals := first.literals ++ progress.literals.modifyHead (first.literal ++ ·)
  holes := first.holes ++ progress.holes.map (Hole.behind · before)
  literal := if progress.literals = [] then first.literal ++ progress.literal else progress.literal
  expression := progress.expression
  place := progress.place.behind before
  context := progress.context.behind before

variable (progress : Progress) (before : List Char) (first : Progress)

theorem openHole_behind (opened : Position) :
    (progress.behind before first).openHole (opened.behind before) =
      (progress.openHole opened).behind before first := by
  obtain ⟨literals, holes, literal, expression, place, context⟩ := progress
  cases literals <;> simp [openHole, behind, Context.behind]

theorem closeHole_behind (opened : Position) :
    (progress.behind before first).closeHole (opened.behind before) =
      (progress.closeHole opened).behind before first := by
  unfold closeHole behind
  dsimp only [Context.behind]
  rw [List.map_append, List.append_assoc]
  rfl

theorem keepLiteral_behind (text : List Char) :
    (progress.behind before first).keepLiteral text = (progress.keepLiteral text).behind before first := by
  obtain ⟨literals, holes, literal, expression, place, context⟩ := progress
  cases literals <;> simp [keepLiteral, behind, String.append_assoc]

theorem keepExpression_behind (token : Token) (context : Context) :
    (progress.behind before first).keepExpression token (context.behind before) =
      (progress.keepExpression token context).behind before first := rfl

theorem inLiteral_behind (counted : 1 ≤ progress.place.line) (token : Token) :
    (progress.behind before first).inLiteral token = (progress.inLiteral token).behind before first := by
  have place : (progress.behind before first).place = progress.place.behind before := rfl
  cases token with
  | openHole => exact openHole_behind progress before first progress.place
  | backslashOpen =>
    unfold inLiteral
    dsimp only
    rw [place, Position.afterAll_behind counted, keepLiteral_behind, openHole_behind]
  | _ => exact keepLiteral_behind progress before first _

theorem inExpression_behind (opened : Position) (depth : Nat) (token : Token) :
    (progress.behind before first).inExpression (opened.behind before) depth token =
      (progress.inExpression opened depth token).behind before first := by
  cases token with
  | closeBrace =>
    unfold inExpression
    by_cases last : depth = 1
    · simp only [last, if_true]
      exact closeHole_behind progress before first opened
    · simp only [last, if_false]
      rfl
  | _ => rfl

theorem inQuoted_behind (opened : Position) (depth : Nat) (quote : Token) (escaped : Bool) (token : Token) :
    (progress.behind before first).inQuoted (opened.behind before) depth quote escaped token =
      (progress.inQuoted opened depth quote escaped token).behind before first := by
  unfold inQuoted
  rw [← keepExpression_behind]
  congr 1
  repeat' split
  all_goals rfl

theorem step_behind (counted : 1 ≤ progress.place.line) (token : Token) :
    (progress.behind before first).step token = (progress.step token).behind before first := by
  have place : (progress.behind before first).place.afterAll token.chars =
      (progress.place.afterAll token.chars).behind before :=
    Position.afterAll_behind counted before token.chars
  have context : (progress.behind before first).context = progress.context.behind before := rfl
  unfold step
  rw [place, context]
  cases progress.context with
  | literal =>
    dsimp only [Context.behind]
    rw [inLiteral_behind progress before first counted]
    rfl
  | expression opened depth =>
    dsimp only [Context.behind]
    rw [inExpression_behind]
    rfl
  | quoted opened depth quote escaped =>
    dsimp only [Context.behind]
    rw [inQuoted_behind]
    rfl

theorem foldl_step_behind (counted : 1 ≤ progress.place.line) (tokens : List Token) :
    tokens.foldl step (progress.behind before first) = (tokens.foldl step progress).behind before first := by
  induction tokens generalizing progress with
  | nil => rfl
  | cons token tokens ih =>
    have counted' : 1 ≤ (progress.step token).place.line :=
      Nat.le_trans counted (Position.line_le_afterAll progress.place token.chars)
    rw [List.foldl_cons, List.foldl_cons, step_behind progress before first counted, ih _ counted']

theorem finish_behind :
    (progress.behind before first).finish =
      match progress.finish with
      | .ok later => .ok (Parts.join ⟨first.literals ++ [first.literal], first.holes⟩ before later)
      | .error opened => .error (opened.behind before) := by
  obtain ⟨literals, holes, literal, expression, place, context⟩ := progress
  cases context with
  | literal => cases literals <;> simp [behind, finish, Context.behind, Parts.join, joinLiterals_append_singleton]
  | expression => rfl
  | quoted => rfl

theorem start_behind (outside : first.context = .literal) (unused : first.expression = "")
    (place : first.place = placeAfter before) : start.behind before first = first := by
  obtain ⟨literals, holes, literal, expression, reached, context⟩ := first
  dsimp only at outside unused place
  subst outside unused place
  simp [behind, start, Context.behind]
  rfl

end Progress

/-- A source that splits and does not end within a token stands in front of another one without any
influence on how that one is split. -/
theorem split_append {first second : String} {parts : Parts} (splits : split first = .ok parts)
    (settled : Settled first.toList) :
    split (first ++ second) =
      match split second with
      | .ok later => .ok (parts.join first.toList later)
      | .error opened => .error (opened.behind first.toList) := by
  have laid := laid_scan first.toList (laid_start first.toList)
  unfold split at splits
  generalize read : (scan first.toList).foldl Progress.step .start = progress at splits laid
  cases inside : progress.context.opened? with
  | some opened =>
    rw [finish_hole inside] at splits
    cases splits
  | none =>
    have outside := literal_of_opened? inside
    rw [finish_literal outside] at splits
    obtain rfl := Except.ok.inj splits
    have resumed := Progress.foldl_step_behind .start first.toList progress (Nat.le_refl 1) (scan second.toList)
    rw [Progress.start_behind first.toList progress outside (laid.agrees.outside outside).2 laid.place] at resumed
    unfold split
    rw [String.toList_append, foldl_scan_append settled (read ▸ outside), read, resumed,
      Progress.finish_behind]

/-- The hole of the second source is found behind a line break of the first one. -/
theorem split_append_twoLines :
    split "a\n$\x7bx\x7d b" =
        .ok ⟨["a\n", " b"], [⟨"x", ⟨2, 1⟩⟩]⟩ ∧
      split ("a\n$\x7bx\x7d b" ++ "c$\x7by\x7dd") =
        .ok ⟨["a\n", " bc", "d"], [⟨"x", ⟨2, 1⟩⟩, ⟨"y", ⟨2, 8⟩⟩]⟩ := by
  have splits : split "a\n$\x7bx\x7d b" = .ok ⟨["a\n", " b"], [⟨"x", ⟨2, 1⟩⟩]⟩ := by
    with_unfolding_all rfl
  have later : split "c$\x7by\x7dd" = .ok ⟨["c", "d"], [⟨"y", ⟨1, 2⟩⟩]⟩ := by
    with_unfolding_all rfl
  have settled : Settled "a\n$\x7bx\x7d b".toList := by simp [Settled]
  refine ⟨splits, ?_⟩
  rw [split_append splits settled, later]
  rfl

end BlockTemplates.Source
