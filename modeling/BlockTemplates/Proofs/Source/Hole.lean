import BlockTemplates.Proofs.Expr.Braces
import BlockTemplates.Proofs.Expr.StringLiteral
import BlockTemplates.Proofs.Source.Image

/-! Expressions in holes. Characters open and close in a hole what the tokens of an expression open
and close, so a hole never ends inside of an accepted expression and always ends behind it. Main
statement: `splitsInto_hole`. -/

namespace BlockTemplates.Source

open BlockTemplates.Expr (isGap nextToken markAt? singleMark? doubleMark? scanNumber stringToken Quotable
  afterTokens?)

/-- The text takes the characters of a hole from `braces` open braces to `left` open ones. -/
def Moves (text : List Char) (braces left : Nat) : Prop :=
  (Nesting.code braces).afterAll? text = some (.code left)

theorem Moves.append {first second : List Char} {braces between left : Nat}
    (one : Moves first braces between) (other : Moves second between left) :
    Moves (first ++ second) braces left := by
  unfold Moves
  rw [afterAll?_append, one]
  exact other

theorem afterAll?_quotable {quote : Quote} {body : List Char} (quotable : Quotable quote.mark body)
    (braces : Nat) :
    (Nesting.quoted braces quote false).afterAll? body = some (.quoted braces quote false) := by
  induction quotable with
  | nil => rfl
  | escape c later ih => exact ih
  | @plain c rest slash apart later ih =>
    have inside : (Nesting.quoted braces quote false).after? c = some (.quoted braces quote false) := by
      simp [Nesting.after?, slash, apart]
    rw [Nesting.afterAll?, List.foldlM_cons, inside]
    exact ih

/-- A string closes its quote and nothing else. -/
theorem moves_string (quote : Quote) {body : List Char} (quotable : Quotable quote.mark body)
    (braces : Nat) : Moves (quote.mark :: (body ++ [quote.mark])) braces braces := by
  have opened : (Nesting.code braces).after? quote.mark = some (.quoted braces quote false) := by
    cases quote <;> rfl
  have closed : (Nesting.quoted braces quote false).afterAll? [quote.mark] = some (.code braces) := by
    cases quote <;> rfl
  unfold Moves
  rw [Nesting.afterAll?, List.foldlM_cons, opened]
  change (Nesting.quoted braces quote false).afterAll? (body ++ [quote.mark]) = _
  rw [afterAll?_append, afterAll?_quotable quotable]
  exact closed

theorem moves_ordinary {run : List Char} (ordinary : ∀ c ∈ run, isSpecial c = false) (braces : Nat) :
    Moves run braces braces := afterAll?_code ordinary braces

/-- Up to `after`, the text takes a hole from `braces` open braces to `left` open ones. -/
def MovesTo (text after : List Char) (braces left : Nat) : Prop :=
  ∃ lexeme, text = lexeme ++ after ∧ Moves lexeme braces left

theorem movesTo_ordinary {run text after : List Char} (whole : text = run ++ after)
    (ordinary : ∀ c ∈ run, isSpecial c = false) (braces : Nat) : MovesTo text after braces braces :=
  ⟨run, whole, moves_ordinary ordinary braces⟩

section Tokens

theorem isSpecial_of_isGap {c : Char} (gap : isGap c = true) : isSpecial c = false := by
  simp only [isGap, Bool.or_eq_true, decide_eq_true_eq] at gap
  rcases gap with (((rfl | rfl) | rfl) | rfl) | rfl <;> rfl

theorem isSpecial_of_isAlphanum {c : Char} (word : c.isAlphanum = true) : isSpecial c = false := by
  cases special : isSpecial c with
  | false => rfl
  | true =>
    simp only [isSpecial, Bool.or_eq_true, decide_eq_true_eq] at special
    rcases special with ((((rfl | rfl) | rfl) | rfl) | rfl) | rfl <;> exact Bool.noConfusion word

theorem isSpecial_of_isNameChar {c : Char} (word : Expr.isNameChar c = true) : isSpecial c = false := by
  simp only [Expr.isNameChar, Bool.or_eq_true, decide_eq_true_eq] at word
  rcases word with word | rfl
  · exact isSpecial_of_isAlphanum word
  · rfl

theorem isSpecial_of_next? {part next : Expr.NumberPart} {hexadecimal : Bool} {c : Char}
    (goes : part.next? hexadecimal c = some next) : isSpecial c = false := by
  cases special : isSpecial c with
  | false => rfl
  | true =>
    simp only [isSpecial, Bool.or_eq_true, decide_eq_true_eq] at special
    rcases special with ((((rfl | rfl) | rfl) | rfl) | rfl) | rfl <;>
      cases hexadecimal <;> simp [Expr.NumberPart.next?] at goes

theorem isSpecial_of_mem_spanNumber {hexadecimal : Bool} {part : Expr.NumberPart} {s : List Char} :
    ∀ c ∈ (Expr.spanNumber hexadecimal part s).1, isSpecial c = false := by
  fun_induction Expr.spanNumber hexadecimal part s with
  | case1 => exact List.forall_mem_nil _
  | case2 => exact List.forall_mem_nil _
  | case3 part c rest next goes taken reached after same ih =>
    rw [same] at ih
    exact List.forall_mem_cons.mpr ⟨isSpecial_of_next? goes, ih⟩

theorem exists_radixOf (s : List Char) :
    ∃ mark, s = mark ++ (Expr.radixOf s).2 ∧ ∀ c ∈ mark, isSpecial c = false := by
  unfold Expr.radixOf
  split
  · exact ⟨['0', 'b'], rfl, by simp [isSpecial]⟩
  · exact ⟨['0', 'B'], rfl, by simp [isSpecial]⟩
  · exact ⟨['0', 'o'], rfl, by simp [isSpecial]⟩
  · exact ⟨['0', 'O'], rfl, by simp [isSpecial]⟩
  · exact ⟨['0', 'x'], rfl, by simp [isSpecial]⟩
  · exact ⟨['0', 'X'], rfl, by simp [isSpecial]⟩
  · exact ⟨[], rfl, by simp [isSpecial]⟩

theorem movesTo_number (s : List Char) (braces : Nat) : MovesTo s (scanNumber s).2 braces braces := by
  obtain ⟨mark, whole, ordinary⟩ := exists_radixOf s
  have digits := Expr.spanNumber_append ((Expr.radixOf s).1 = 16)
    (if (Expr.radixOf s).1 = 10 then .whole else .radix) (Expr.radixOf s).2
  rw [← digits, ← List.append_assoc] at whole
  refine movesTo_ordinary whole (fun c member => ?_) braces
  rcases List.mem_append.mp member with inside | inside
  · exact ordinary c inside
  · exact isSpecial_of_mem_spanNumber c inside

theorem movesTo_name {c : Char} (start : Expr.isNameStart c = true) (rest : List Char) (braces : Nat) :
    MovesTo (c :: rest) (rest.dropWhile Expr.isNameChar) braces braces := by
  have first : Expr.isNameChar c = true := by
    simp only [Expr.isNameStart, Bool.or_eq_true] at start
    simp only [Expr.isNameChar, Char.isAlphanum, Bool.or_eq_true]
    exact start.imp .inl id
  have whole : c :: rest = c :: rest.takeWhile Expr.isNameChar ++ rest.dropWhile Expr.isNameChar := by
    rw [List.cons_append, List.takeWhile_append_dropWhile]
  refine movesTo_ordinary whole (fun d member => ?_) braces
  rcases List.mem_cons.mp member with rfl | inside
  · exact isSpecial_of_isNameChar first
  · exact isSpecial_of_isNameChar (List.all_eq_true.mp List.all_takeWhile d inside)

theorem moves_singleMark {c : Char} {m : Expr.Mark} (mark : singleMark? c = some m) {braces left : Nat}
    (effect : Expr.Token.after? braces (.mark m) = some left) : Moves [c] braces left := by
  unfold singleMark? at mark
  split at mark <;> cases mark
  case h_19 =>
    -- A closing brace has to meet an open one.
    cases braces with
    | zero => cases effect
    | succ braces =>
      obtain rfl := Option.some.inj effect
      rfl
  all_goals
    obtain rfl := Option.some.inj effect
    rfl

theorem moves_doubleMark {c d : Char} {m : Expr.Mark} (mark : doubleMark? c d = some m) {braces left : Nat}
    (effect : Expr.Token.after? braces (.mark m) = some left) : Moves [c, d] braces left := by
  unfold doubleMark? at mark
  split at mark <;> cases mark
  all_goals
    obtain rfl := Option.some.inj effect
    rfl

theorem movesTo_mark {c : Char} {rest after : List Char} {m : Expr.Mark}
    (mark : markAt? c rest = some (m, after)) {braces left : Nat}
    (effect : Expr.Token.after? braces (.mark m) = some left) : MovesTo (c :: rest) after braces left := by
  have single (found : (singleMark? c).map (·, rest) = some (m, after)) :
      MovesTo (c :: rest) after braces left := by
    obtain ⟨m', known, same⟩ := Option.map_eq_some_iff.mp found
    obtain ⟨rfl, rfl⟩ := Prod.mk.inj same
    exact ⟨[c], rfl, moves_singleMark known effect⟩
  unfold markAt? at mark
  split at mark
  · next d rest =>
    split at mark
    · next found =>
      obtain ⟨rfl, rfl⟩ := Prod.mk.inj (Option.some.inj mark)
      exact ⟨[c, d], rfl, moves_doubleMark found effect⟩
    · exact single mark
  · exact single mark

theorem movesTo_string {c : Char} (quoted : c = '"' ∨ c = '\'') {rest after : List Char}
    {token : Expr.Token} (read : stringToken c rest = (token, after)) {braces left : Nat}
    (effect : token.after? braces = some left) : MovesTo (c :: rest) after braces left := by
  obtain ⟨quote, rfl⟩ : ∃ quote : Quote, quote.mark = c := by
    rcases quoted with rfl | rfl
    · exact ⟨.double, rfl⟩
    · exact ⟨.single, rfl⟩
  unfold stringToken at read
  split at read
  · obtain ⟨rfl, -⟩ := Prod.mk.inj read
    cases effect
  · next body _ found =>
    obtain ⟨rfl, quotable⟩ := Expr.stringBody?_eq_some found
    split at read
    · obtain ⟨rfl, rfl⟩ := Prod.mk.inj read
      obtain rfl := Option.some.inj effect
      exact ⟨quote.mark :: (body ++ [quote.mark]), by simp, moves_string quote quotable braces⟩
    · obtain ⟨rfl, -⟩ := Prod.mk.inj read
      cases effect

/-- The characters of a token move the braces of a hole as the token does. -/
theorem movesTo_nextToken {c : Char} {rest after : List Char} {token : Expr.Token}
    (read : nextToken c rest = (token, after)) {braces left : Nat}
    (effect : token.after? braces = some left) : MovesTo (c :: rest) after braces left := by
  unfold nextToken at read
  split at read
  · next mark =>
    obtain ⟨rfl, rfl⟩ := Prod.mk.inj read
    exact movesTo_mark mark effect
  · split at read
    · next quoted => exact movesTo_string quoted read effect
    · split at read
      · have number := movesTo_number (c :: rest) braces
        split at read
        · obtain ⟨rfl, -⟩ := Prod.mk.inj read
          cases effect
        · next found =>
          obtain ⟨rfl, rfl⟩ := Prod.mk.inj read
          obtain rfl := Option.some.inj effect
          rwa [found] at number
        · next found =>
          obtain ⟨rfl, rfl⟩ := Prod.mk.inj read
          obtain rfl := Option.some.inj effect
          rwa [found] at number
      · split at read
        · next start =>
          obtain ⟨rfl, rfl⟩ := Prod.mk.inj read
          obtain rfl := Option.some.inj effect
          exact movesTo_name start rest braces
        · obtain ⟨rfl, -⟩ := Prod.mk.inj read
          cases effect

end Tokens

/-- The characters of an expression move the braces of a hole as its tokens do. -/
theorem moves_of_scan {source : List Char} {braces left : Nat}
    (effect : afterTokens? braces (Expr.scan source) = some left) : Moves source braces left := by
  fun_induction Expr.scan source generalizing braces with
  | case1 =>
    obtain rfl := Option.some.inj effect
    rfl
  | case2 c rest gap ih =>
    have blank : Moves [c] braces braces := moves_ordinary (by simpa using isSpecial_of_isGap gap) braces
    exact blank.append (ih effect)
  | case3 c rest _ _ ih =>
    rw [Expr.afterTokens?_cons, Option.bind_eq_some_iff] at effect
    obtain ⟨between, first, later⟩ := effect
    obtain ⟨lexeme, whole, moved⟩ := movesTo_nextToken rfl first
    rw [whole]
    exact moved.append (ih later)

theorem moves_of_compile {e : String} {tree : Expr} (accepted : Expr.compile e = .ok tree) :
    Moves e.toList 0 0 := moves_of_scan (Expr.closes_of_compile accepted 0)

namespace Reading

/-- What has been read after literals and expressions that stood before it. -/
def under (literals expressions : List (List Char)) (reading : Reading) : Reading :=
  ⟨literals ++ reading.literals, expressions ++ reading.expressions, reading.text, reading.mode⟩

section Under

variable (literals expressions : List (List Char)) (reading : Reading)

theorem copy_under (backslashes : Nat) (c : Char) :
    (reading.under literals expressions).copy backslashes c =
      (reading.copy backslashes c).under literals expressions := by
  unfold copy under
  split
  · rfl
  · split <;> rfl

theorem openHole_under (tail : List Char) :
    (reading.under literals expressions).openHole tail =
      (reading.openHole tail).under literals expressions := by
  simp [openHole, under]

theorem afterDollar_under (backslashes : Nat) (c : Char) :
    (reading.under literals expressions).afterDollar backslashes c =
      (reading.afterDollar backslashes c).under literals expressions := by
  unfold afterDollar
  split
  · split
    · exact openHole_under literals expressions reading []
    · rfl
    · exact openHole_under literals expressions reading _
  · exact copy_under literals expressions { reading with text := reading.text ++ held backslashes true } 0 c

theorem step_under (c : Char) :
    (reading.under literals expressions).step c = (reading.step c).under literals expressions := by
  obtain ⟨done, holes, text, mode⟩ := reading
  cases mode with
  | literal backslashes dollar =>
    cases dollar with
    | true => exact afterDollar_under literals expressions ⟨done, holes, text, _⟩ backslashes c
    | false => exact copy_under literals expressions ⟨done, holes, text, _⟩ backslashes c
  | hole nesting =>
    cases inner : nesting.after? c with
    | some inner => simp [step, under, inner]
    | none => simp [step, under, inner, closeHole]

theorem steps_under (text : List Char) :
    (reading.under literals expressions).steps text = (reading.steps text).under literals expressions := by
  induction text generalizing reading with
  | nil => rfl
  | cons c text ih => rw [steps_cons, step_under, ih, steps_cons]

theorem finish?_under :
    (reading.under literals expressions).finish? =
      reading.finish?.map fun parts => (literals ++ parts.1, expressions ++ parts.2) := by
  unfold finish? under
  cases reading.mode <;> simp

end Under

end Reading

theorem steps_hole_closed (done holes : List (List Char)) {text expression : List Char}
    {backslashes : Nat} {dollar : Bool} (last : text.getLast? ≠ some '\\')
    (unescaped : (text ++ held backslashes dollar).getLast? ≠ some '\\')
    (moved : Moves expression 0 0) :
    Reading.steps ⟨done, holes, text, .literal backslashes dollar⟩ (['$', '{'] ++ expression ++ ['}']) =
      Reading.under (done ++ [text ++ held backslashes dollar]) (holes ++ [Text.trim expression]) .start := by
  have unguarded : guardOf (text ++ held backslashes dollar) = [] := if_neg unescaped
  have opened : Reading.steps ⟨done, holes, text, .literal backslashes dollar⟩ ['$', '{'] =
      ⟨done ++ [text ++ held backslashes dollar], holes, [], .hole (.code 0)⟩ := by
    rw [← steps_open done holes last, unguarded, List.nil_append]
  rw [Reading.steps_append, Reading.steps_append, opened, steps_hole _ _ [] moved]
  simp [Reading.step, Nesting.after?, Reading.closeHole, Reading.under, Reading.start]

/-- An accepted expression can stand in a hole between any two sources, unless the text before the
hole ends with a backslash. -/
theorem splitsInto_between {e before after literal : String} {tree : Expr}
    {literals literals' expressions expressions' : List String} (accepted : Expr.compile e = .ok tree)
    (unescaped : literal.toList.getLast? ≠ some '\\')
    (first : SplitsInto before (literals ++ [literal]) expressions)
    (rest : SplitsInto after literals' expressions') :
    SplitsInto (before ++ ("$\x7b" ++ e ++ "\x7d") ++ after) (literals ++ literal :: literals')
      (expressions ++ Text.trimString e :: expressions') := by
  rw [splitsInto_iff] at first rest ⊢
  have last := (sound_steps sound_start before.toList).text
  change (Reading.start.steps before.toList).finish? = _ at first
  change SoundText (Reading.start.steps before.toList).text (Reading.start.steps before.toList).mode at last
  generalize reached : Reading.start.steps before.toList = reading at first last
  obtain ⟨done, holes, text, mode⟩ := reading
  cases mode with
  | hole nesting => cases first
  | literal backslashes dollar =>
    obtain ⟨sameLiterals, rfl⟩ := Prod.mk.inj (Option.some.inj first)
    dsimp only at sameLiterals last
    rw [List.map_append] at sameLiterals
    obtain ⟨rfl, ended⟩ := List.append_inj' sameLiterals rfl
    have ended : text ++ held backslashes dollar = literal.toList := (List.cons.inj ended).1
    rw [← ended] at unescaped
    have hole := steps_hole_closed (literals.map String.toList) (expressions.map String.toList) last.2.1
      unescaped (moves_of_compile accepted)
    have chars : (before ++ ("$\x7b" ++ e ++ "\x7d") ++ after).toList =
        before.toList ++ (['$', '{'] ++ e.toList ++ ['}'] ++ after.toList) := by
      simp [String.toList_append]
    rw [chars, Reading.ofSource, Reading.steps_append, reached, Reading.steps_append, hole,
      Reading.steps_under, Reading.finish?_under]
    change (Reading.ofSource after.toList).finish?.map _ = _
    rw [rest, ended]
    simp [Text.trimString]

/-- A hole around an accepted expression holds just that expression, trimmed. The hole ends with its
own closing brace, whatever stands around it. -/
theorem splitsInto_hole {e : String} {tree : Expr} (accepted : Expr.compile e = .ok tree) :
    SplitsInto ("$\x7b" ++ e ++ "\x7d") ["", ""] [Text.trimString e] ∧
      ∀ (before after literal : String) (literals literals' expressions expressions' : List String),
        literal.toList.getLast? ≠ some '\\' →
        SplitsInto before (literals ++ [literal]) expressions → SplitsInto after literals' expressions' →
          SplitsInto (before ++ ("$\x7b" ++ e ++ "\x7d") ++ after) (literals ++ literal :: literals')
            (expressions ++ Text.trimString e :: expressions') := by
  constructor
  · have nothing : SplitsInto "" [""] [] := splitsInto_iff.mpr rfl
    have alone : SplitsInto ("" ++ ("$\x7b" ++ e ++ "\x7d") ++ "") ([] ++ ["", ""]) ([] ++ [Text.trimString e]) :=
      splitsInto_between accepted (by decide) nothing nothing
    rwa [String.empty_append, String.append_empty] at alone
  · exact fun _ _ _ _ _ _ _ => splitsInto_between accepted

theorem splitsInto_hole_bracedStrings :
    (∃ tree, Expr.compile " \x7b'\x7d': \"'\x7b\\\"\"\x7d['\x7d'] " = .ok tree) ∧
      SplitsInto "$\x7b \x7b'\x7d': \"'\x7b\\\"\"\x7d['\x7d'] \x7d" ["", ""]
        ["\x7b'\x7d': \"'\x7b\\\"\"\x7d['\x7d']"] := by
  have accepted : Expr.compile " \x7b'\x7d': \"'\x7b\\\"\"\x7d['\x7d'] " =
      .ok (.item (.table [(.constant (.text "\x7d"), .constant (.text "'\x7b\""))])
        (.constant (.text "\x7d"))) := by
    with_unfolding_all rfl
  exact ⟨⟨_, accepted⟩, (splitsInto_hole accepted).1⟩

end BlockTemplates.Source
