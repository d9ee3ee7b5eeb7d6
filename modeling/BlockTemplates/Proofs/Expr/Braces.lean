import BlockTemplates.Expr.Grammar

/-! Braces in the tokens of an expression. Every reader takes tokens from the front that close the
braces that they open; only the reader of a table's entries takes the brace that ends the table as
well. Main statement: `closes_of_compile`, the tokens of an accepted expression are balanced. -/

namespace BlockTemplates.Expr

/-- The braces that are open after a token. There are none when it closes a brace that is not open
or when it cannot be read. -/
def Token.after? (braces : Nat) : Token → Option Nat
  | .mark .openBrace => some (braces + 1)
  | .mark .closeBrace => if braces = 0 then none else some (braces - 1)
  | .bad _ => none
  | _ => some braces

def afterTokens? (braces : Nat) (tokens : List Token) : Option Nat := tokens.foldlM Token.after? braces

/-- The tokens close all braces that they open and `count` more. -/
def Closes (tokens : List Token) (count : Nat) : Prop :=
  ∀ braces, afterTokens? (braces + count) tokens = some braces

/-- A token other than a brace that can be compared with another one. -/
def Token.isPlain : Token → Bool
  | .mark .openBrace => false
  | .mark .closeBrace => false
  | .mark _ => true
  | .name _ => true
  | _ => false

theorem Token.after?_of_isPlain {token : Token} (plain : token.isPlain = true) (braces : Nat) :
    token.after? braces = some braces := by
  cases token with
  | mark m => cases m <;> first | rfl | cases plain
  | name s => rfl
  | _ => cases plain

theorem Token.eq_of_beq {token other : Token} (plain : token.isPlain = true ∨ token = .mark .closeBrace)
    (same : (other == token) = true) : other = token := by
  cases token with
  | mark m => cases other <;> simp_all [BEq.beq, instBEqToken.beq]
  | name s => cases other <;> simp_all [BEq.beq, instBEqToken.beq]
  | _ => simp [Token.isPlain] at plain

theorem afterTokens?_cons (braces : Nat) (token : Token) (tokens : List Token) :
    afterTokens? braces (token :: tokens) = (token.after? braces).bind (afterTokens? · tokens) :=
  List.foldlM_cons

theorem afterTokens?_append (braces : Nat) (first second : List Token) :
    afterTokens? braces (first ++ second) = (afterTokens? braces first).bind (afterTokens? · second) :=
  List.foldlM_append

theorem Closes.nil : Closes [] 0 := fun _ => rfl

theorem Closes.append {first second : List Token} {count : Nat} (one : Closes first 0)
    (other : Closes second count) : Closes (first ++ second) count := by
  intro braces
  have balanced := one (braces + count)
  rw [Nat.add_zero] at balanced
  rw [afterTokens?_append, balanced]
  exact other braces

theorem Closes.cons {token : Token} {tokens : List Token} {count : Nat}
    (neutral : ∀ braces, token.after? braces = some braces) (rest : Closes tokens count) :
    Closes (token :: tokens) count := by
  intro braces
  rw [afterTokens?_cons, neutral]
  exact rest braces

theorem Closes.openBrace {tokens : List Token} (rest : Closes tokens 1) :
    Closes (.mark .openBrace :: tokens) 0 := by
  intro braces
  rw [afterTokens?_cons]
  exact rest braces

theorem Closes.closeBrace {tokens : List Token} (rest : Closes tokens 0) :
    Closes (.mark .closeBrace :: tokens) 1 := by
  intro braces
  rw [afterTokens?_cons]
  exact rest braces

/-- What the reader takes from the front closes all braces that it opens and `count` more. -/
def Reads {α : Type} (reader : Reader α) (count : Nat) : Prop :=
  ∀ tokens a rest, reader tokens = .ok (a, rest) → ∃ read, tokens = read ++ rest ∧ Closes read count

section Readers

variable {α β : Type} {count : Nat}

theorem bind_eq_ok {first : Reader α} {next : α → Reader β} {tokens rest : List Token} {b : β}
    (read : (first >>= next) tokens = .ok (b, rest)) :
    ∃ a between, first tokens = .ok (a, between) ∧ next a between = .ok (b, rest) := by
  change (first tokens).bind (fun reached => next reached.1 reached.2) = _ at read
  cases one : first tokens with
  | error error =>
    rw [one] at read
    cases read
  | ok reached =>
    rw [one] at read
    exact ⟨reached.1, reached.2, rfl, read⟩

theorem peek_eq_ok {tokens rest : List Token} {next : Option Token}
    (read : Reader.peek tokens = .ok (next, rest)) :
    rest = tokens ∧ tokens.head? = next ∧ ∀ error, next ≠ some (.bad error) := by
  unfold Reader.peek at read
  split at read
  · cases read
  · next other =>
    obtain ⟨rfl, rfl⟩ := Prod.mk.inj (Except.ok.inj read)
    exact ⟨rfl, rfl, other⟩

theorem skip_eq_ok {tokens rest : List Token} {u : Unit} (read : Reader.skip tokens = .ok (u, rest)) :
    rest = tokens.tail := (Prod.mk.inj (Except.ok.inj read)).2.symm

theorem eq_cons_of_head? {tokens : List Token} {token : Token} (first : tokens.head? = some token) :
    tokens = token :: tokens.tail := by
  obtain ⟨rest, rfl⟩ := List.head?_eq_some_iff.mp first
  rfl

theorem take_eq_ok {tokens rest : List Token} {token : Token}
    (read : Reader.take tokens = .ok (token, rest)) :
    tokens = token :: rest ∧ ∀ error, token ≠ .bad error := by
  obtain ⟨next, _, peeked, more⟩ := bind_eq_ok read
  obtain ⟨rfl, first, readable⟩ := peek_eq_ok peeked
  cases next with
  | none => cases more
  | some token' =>
    obtain ⟨_, _, skipped, last⟩ := bind_eq_ok more
    obtain rfl := skip_eq_ok skipped
    obtain ⟨rfl, rfl⟩ := Prod.mk.inj (Except.ok.inj last)
    exact ⟨eq_cons_of_head? first, fun error same => readable error (congrArg some same)⟩

theorem accept_eq_ok {token : Token} (plain : token.isPlain = true ∨ token = .mark .closeBrace)
    {tokens rest : List Token} {found : Bool} (read : Reader.accept token tokens = .ok (found, rest)) :
    (found = true ∧ tokens = token :: rest) ∨ (found = false ∧ tokens = rest) := by
  obtain ⟨next, _, peeked, more⟩ := bind_eq_ok read
  obtain ⟨rfl, first, -⟩ := peek_eq_ok peeked
  split at more
  · next same =>
    obtain ⟨_, _, skipped, last⟩ := bind_eq_ok more
    obtain rfl := skip_eq_ok skipped
    obtain ⟨rfl, rfl⟩ := Prod.mk.inj (Except.ok.inj last)
    cases next with
    | none => cases same
    | some other =>
      obtain rfl := Token.eq_of_beq plain same
      exact .inl ⟨rfl, eq_cons_of_head? first⟩
  · obtain ⟨rfl, rfl⟩ := Prod.mk.inj (Except.ok.inj more)
    exact .inr ⟨rfl, rfl⟩

theorem reads_pure (a : α) : Reads (pure a) 0 := by
  intro tokens a' rest read
  obtain ⟨-, rfl⟩ := Prod.mk.inj (Except.ok.inj read)
  exact ⟨[], rfl, .nil⟩

theorem reads_refuse : Reads (Reader.refuse : Reader α) count := by
  intro tokens a rest read
  cases read

theorem Reads.bind {first : Reader α} {next : α → Reader β} (one : Reads first 0)
    (others : ∀ a, Reads (next a) count) : Reads (first >>= next) count := by
  intro tokens b rest read
  obtain ⟨a, between, begun, ended⟩ := bind_eq_ok read
  obtain ⟨taken, rfl, closed⟩ := one _ _ _ begun
  obtain ⟨more, rfl, closed'⟩ := others a _ _ _ ended
  exact ⟨taken ++ more, (List.append_assoc _ _ _).symm, closed.append closed'⟩

theorem Reads.map {reader : Reader α} (closed : Reads reader count) (f : α → β) :
    Reads (f <$> reader) count := by
  intro tokens b rest read
  change (reader tokens).map (fun reached => (f reached.1, reached.2)) = _ at read
  cases one : reader tokens with
  | error error =>
    rw [one] at read
    cases read
  | ok reached =>
    rw [one] at read
    obtain ⟨-, rfl⟩ := Prod.mk.inj (Except.ok.inj read)
    exact closed _ _ _ one

theorem Reads.ite {holds : Prop} [Decidable holds] {yes no : Reader α} (one : Reads yes count)
    (other : Reads no count) : Reads (if holds then yes else no) count := by
  split
  · exact one
  · exact other

theorem reads_peek : Reads Reader.peek 0 := by
  intro tokens next rest read
  obtain ⟨rfl, -, -⟩ := peek_eq_ok read
  exact ⟨[], rfl, .nil⟩

theorem reads_accept {token : Token} (plain : token.isPlain = true) : Reads (Reader.accept token) 0 := by
  intro tokens found rest read
  obtain ⟨-, rfl⟩ | ⟨-, rfl⟩ := accept_eq_ok (.inl plain) read
  · exact ⟨[token], rfl, .cons (Token.after?_of_isPlain plain) .nil⟩
  · exact ⟨[], rfl, .nil⟩

theorem reads_expect {token : Token} (plain : token.isPlain = true) : Reads (Reader.expect token) 0 :=
  (reads_accept plain).bind fun _ => .ite (reads_pure _) reads_refuse

theorem reads_closing {yes no : Reader α} (one : Reads yes 0) (other : Reads no 1) :
    Reads (do if ← Reader.accept (.mark .closeBrace) then yes else no) 1 := by
  intro tokens a rest read
  obtain ⟨found, between, begun, ended⟩ := bind_eq_ok read
  obtain ⟨rfl, rfl⟩ | ⟨rfl, rfl⟩ := accept_eq_ok (.inr rfl) begun
  · obtain ⟨taken, rfl, closed⟩ := one _ _ _ ended
    exact ⟨_ :: taken, rfl, closed.closeBrace⟩
  · exact other _ _ _ ended

theorem Reads.take {next : Token → Reader α} (opening : Reads (next (.mark .openBrace)) 1)
    (closing : next (.mark .closeBrace) = Reader.refuse)
    (others : ∀ token, (∀ braces, token.after? braces = some braces) → Reads (next token) 0) :
    Reads (Reader.take >>= next) 0 := by
  intro tokens a rest read
  obtain ⟨token, between, taken, ended⟩ := bind_eq_ok read
  obtain ⟨rfl, readable⟩ := take_eq_ok taken
  have neutral (same : ∀ braces, token.after? braces = some braces) :
      ∃ read, token :: between = read ++ rest ∧ Closes read 0 := by
    obtain ⟨more, rfl, closed⟩ := others token same _ _ _ ended
    exact ⟨token :: more, rfl, closed.cons same⟩
  cases token with
  | mark m =>
    by_cases opens : m = .openBrace
    · subst opens
      obtain ⟨more, rfl, closed⟩ := opening _ _ _ ended
      exact ⟨_ :: more, rfl, closed.openBrace⟩
    · by_cases closes : m = .closeBrace
      · subst closes
        rw [closing] at ended
        cases ended
      · apply neutral
        intro braces
        cases m <;> first | rfl | contradiction
  | bad error => exact absurd rfl (readable error)
  | name s => exact neutral fun _ => rfl
  | text s => exact neutral fun _ => rfl
  | int n => exact neutral fun _ => rfl
  | float x => exact neutral fun _ => rfl

theorem Reads.peek {next : Option Token → Reader α}
    (each : ∀ token?, Reads (next token?) 0 ∨ ∃ token after, token? = some token ∧
      token.isPlain = true ∧ next token? = (do Reader.skip; after) ∧ Reads after 0) :
    Reads (Reader.peek >>= next) 0 := by
  intro tokens a rest read
  obtain ⟨token?, _, peeked, more⟩ := bind_eq_ok read
  obtain ⟨rfl, first, -⟩ := peek_eq_ok peeked
  obtain kept | ⟨token, after, rfl, plain, skips, others⟩ := each token?
  · exact kept _ _ _ more
  · rw [skips] at more
    obtain ⟨_, _, skipped, last⟩ := bind_eq_ok more
    obtain rfl := skip_eq_ok skipped
    obtain ⟨taken, same, closed⟩ := others _ _ _ last
    refine ⟨token :: taken, ?_, .cons (Token.after?_of_isPlain plain) closed⟩
    rw [eq_cons_of_head? first, same, List.cons_append]

end Readers

theorem Level.isPlain_of_operator? {level : Level} {token : Token} {operator : Expr → Expr → Expr}
    (found : level.operator? token = some operator) : token.isPlain = true := by
  unfold Level.operator? at found
  split at found <;> first | rfl | cases found

theorem isPlain_of_comparison? {token : Token} {comparison : Comparison}
    (found : comparison? token = some comparison) : token.isPlain = true := by
  unfold comparison? at found
  split at found <;> first | rfl | cases found

theorem reads_takeName : Reads Reader.takeName 0 := by
  unfold Reader.takeName
  refine .take reads_refuse rfl fun token _ => ?_
  cases token with
  | name s => exact reads_pure s
  | _ => exact reads_refuse

theorem reads_takeTexts (start : String) : Reads (takeTexts start) 0 := by
  intro tokens text rest read
  fun_induction takeTexts start tokens with
  | case1 start s tokens ih =>
    obtain ⟨taken, rfl, closed⟩ := ih read
    exact ⟨.text s :: taken, rfl, closed.cons fun _ => rfl⟩
  | case2 => cases read
  | case3 =>
    obtain ⟨-, rfl⟩ := Prod.mk.inj (Except.ok.inj read)
    exact ⟨[], rfl, .nil⟩

theorem reads_takeComparison? : Reads takeComparison? 0 := by
  refine .peek fun token? => ?_
  cases found : token?.bind comparison? with
  | none => exact .inl (reads_pure none)
  | some comparison =>
    obtain ⟨token, same, known⟩ := Option.bind_eq_some_iff.mp found
    refine .inr ⟨token, _, same, isPlain_of_comparison? known, rfl, ?_⟩
    exact .ite ((reads_expect rfl).bind fun _ => reads_pure (some comparison)) (reads_pure _)

/-- What every reader takes, when readers may call each other `steps` deep. -/
structure ReadsWithin (steps : Nat) : Prop where
  expr : ∀ room, Reads (readExpr steps room) 0
  alternatives : ∀ room e, Reads (readAlternatives steps room e) 0
  level : ∀ room level, Reads (readLevel steps room level) 0
  chain : ∀ room level left, Reads (readChain steps room level left) 0
  operand : ∀ room level, Reads (readOperand steps room level) 0
  negation : ∀ room, Reads (readNegation steps room) 0
  comparisons : ∀ room, Reads (readComparisons steps room) 0
  signed : ∀ room, Reads (readSigned steps room) 0
  primary : ∀ room, Reads (readPrimary steps room) 0
  parenthesis : ∀ room, Reads (readParenthesis steps room) 0
  items : ∀ room closing, closing.isPlain = true → Reads (readItems steps room closing) 0
  entries : ∀ room, Reads (readEntries steps room) 1
  attached : ∀ room e, Reads (readAttached steps room e) 0
  subscript : ∀ room e, Reads (readSubscript steps room e) 0
  bound : ∀ room, Reads (readBound steps room) 0
  arguments : ∀ room named count, Reads (readArguments steps room named count) 0
  argument : ∀ room, Reads (readArgument steps room) 0
  modifiers : ∀ room e, Reads (readModifiers steps room e) 0
  testArguments : ∀ room, Reads (readTestArguments steps room) 0

theorem readsWithin_zero : ReadsWithin 0 := by
  constructor <;> intros <;>
    simp only [readExpr, readAlternatives, readLevel, readChain, readOperand, readNegation, readComparisons,
      readSigned, readPrimary, readParenthesis, readItems, readEntries, readAttached, readSubscript,
      readBound, readArguments, readArgument, readModifiers, readTestArguments, reads_refuse]

section Step

variable {steps : Nat} (within : ReadsWithin steps) (room : Nat)
include within

theorem reads_readExpr : Reads (readExpr (steps + 1) room) 0 := by
  rw [readExpr.eq_def]
  cases room with
  | zero => exact reads_refuse
  | succ room => exact (within.level room .or).bind fun e => within.alternatives room e

theorem reads_readAlternatives (e : Expr) :
    Reads (readAlternatives (steps + 1) room e) 0 := by
  rw [readAlternatives]
  refine (reads_accept rfl).bind fun _ => .ite ?_ (reads_pure e)
  refine (within.level room .or).bind fun condition => ?_
  refine (reads_accept rfl).bind fun _ => .ite ?_ (within.alternatives room _)
  refine (within.level room .or).bind fun other => ?_
  exact (within.alternatives room other).bind fun no => within.alternatives room _

theorem reads_readLevel (level : Level) : Reads (readLevel (steps + 1) room level) 0 := by
  rw [readLevel]
  exact (within.operand room level).bind fun left => within.chain room level left

theorem reads_readChain (level : Level) (left : Expr) :
    Reads (readChain (steps + 1) room level left) 0 := by
  rw [readChain]
  refine .peek fun token? => ?_
  cases found : token?.bind level.operator? with
  | none => exact .inl (reads_pure left)
  | some operator =>
    obtain ⟨token, same, known⟩ := Option.bind_eq_some_iff.mp found
    refine .inr ⟨token, _, same, Level.isPlain_of_operator? known, rfl, ?_⟩
    exact (within.operand room level).bind fun right => within.chain room level _

theorem reads_readOperand (level : Level) : Reads (readOperand (steps + 1) room level) 0 := by
  rw [readOperand.eq_def]
  cases level with
  | or => exact within.level room .and
  | and => exact within.negation room
  | sum => exact within.level room .concat
  | concat => exact within.level room .product
  | product => exact within.level room .power
  | power => exact (within.signed room).bind fun e => within.modifiers room e

theorem reads_readNegation : Reads (readNegation (steps + 1) room) 0 := by
  rw [readNegation.eq_def]
  refine (reads_accept rfl).bind fun _ => .ite ?_ ?_
  · cases room with
    | zero => exact reads_refuse
    | succ room => exact (within.negation room).bind fun e => reads_pure _
  · refine (within.level room .sum).bind fun first => ?_
    refine (within.comparisons room).bind fun rest => ?_
    cases rest with
    | nil => exact reads_pure first
    | cons comparison rest => exact reads_pure _

theorem reads_readComparisons : Reads (readComparisons (steps + 1) room) 0 := by
  rw [readComparisons]
  refine reads_takeComparison?.bind fun comparison => ?_
  cases comparison with
  | none => exact reads_pure []
  | some comparison =>
    refine (within.level room .sum).bind fun operand => ?_
    exact (within.comparisons room).bind fun rest => reads_pure _

theorem reads_readSigned : Reads (readSigned (steps + 1) room) 0 := by
  rw [readSigned.eq_def]
  refine (reads_accept rfl).bind fun _ => .ite ?_ ?_
  · cases room with
    | zero => exact reads_refuse
    | succ room => exact (within.signed room).bind fun e => reads_pure _
  · exact (within.primary room).bind fun e => within.attached room e

/-- The brace that opens a table is closed by its entries, or at once. -/
theorem reads_readPrimary : Reads (readPrimary (steps + 1) room) 0 := by
  rw [readPrimary]
  refine .take (reads_closing (reads_pure _) ((within.entries room).map Expr.table))
    rfl fun token neutral => ?_
  split
  · exact reads_pure _
  · exact reads_pure _
  · exact reads_pure _
  · exact reads_pure _
  · exact reads_pure _
  · exact reads_pure _
  · exact reads_pure _
  · exact (reads_takeTexts _).bind fun text => reads_pure _
  · exact reads_pure _
  · exact reads_pure _
  · exact within.parenthesis room
  · refine (reads_accept rfl).bind fun _ => .ite (reads_pure _) ?_
    exact (within.items room _ rfl).bind fun items => reads_pure _
  · exact absurd (neutral 0) (by decide)
  · exact reads_refuse

theorem reads_readParenthesis : Reads (readParenthesis (steps + 1) room) 0 := by
  rw [readParenthesis]
  refine (reads_accept rfl).bind fun _ => .ite (reads_pure _) ?_
  refine (within.expr room).bind fun first => ?_
  refine (reads_accept rfl).bind fun _ => .ite ?_ ((reads_expect rfl).bind fun _ => reads_pure first)
  refine (reads_accept rfl).bind fun _ => .ite (reads_pure _) ?_
  exact (within.items room _ rfl).bind fun others => reads_pure _

theorem reads_readItems {closing : Token} (plain : closing.isPlain = true) :
    Reads (readItems (steps + 1) room closing) 0 := by
  rw [readItems]
  refine (within.expr room).bind fun item => ?_
  refine (reads_accept plain).bind fun _ => .ite (reads_pure _) ?_
  refine (reads_expect rfl).bind fun _ => ?_
  refine (reads_accept plain).bind fun _ => .ite (reads_pure _) ?_
  exact (within.items room closing plain).bind fun others => reads_pure _

theorem reads_readEntries : Reads (readEntries (steps + 1) room) 1 := by
  rw [readEntries]
  refine (within.expr room).bind fun key => ?_
  refine (reads_expect rfl).bind fun _ => (within.expr room).bind fun value => ?_
  refine reads_closing (reads_pure _) ?_
  refine (reads_expect rfl).bind fun _ => reads_closing (reads_pure _) ?_
  exact (within.entries room).map _

theorem reads_readAttached (e : Expr) : Reads (readAttached (steps + 1) room e) 0 := by
  rw [readAttached]
  refine (reads_accept rfl).bind fun _ => .ite ?_ ?_
  · refine .take reads_refuse rfl fun token _ => ?_
    cases token with
    | name s => exact within.attached room _
    | int n => exact within.attached room _
    | _ => exact reads_refuse
  · refine (reads_accept rfl).bind fun _ => .ite ?_ ?_
    · exact (within.subscript room e).bind fun item => within.attached room item
    · refine (reads_accept rfl).bind fun _ => .ite ?_ (reads_pure e)
      exact (within.arguments room false 0).bind fun arguments => within.attached room _

theorem reads_readSubscript (e : Expr) : Reads (readSubscript (steps + 1) room e) 0 := by
  rw [readSubscript]
  refine (within.bound room).bind fun start => (reads_accept rfl).bind fun _ => .ite ?_ ?_
  · have ended (stop step : Option Expr) : Reads (do
        Reader.expect (.mark .closeBracket)
        let given (bound : Option Expr) : Expr :=
          bound.getD (.constant .none)
        return Expr.slice e (given start) (given stop) (given step)) 0 :=
      (reads_expect rfl).bind fun _ => reads_pure _
    refine (within.bound room).bind fun stop => (reads_accept rfl).bind fun _ => .ite ?_ (ended stop none)
    refine reads_peek.bind fun _ => .ite (ended stop none) ?_
    exact ((within.expr room).map some).bind fun step => ended stop step
  · refine (reads_expect rfl).bind fun _ => ?_
    cases start with
    | none => exact reads_refuse
    | some key => exact reads_pure _

theorem reads_readBound : Reads (readBound (steps + 1) room) 0 := by
  rw [readBound]
  exact reads_peek.bind fun _ => .ite (reads_pure none) ((within.expr room).map some)

theorem reads_readArguments (named : Bool) (count : Nat) :
    Reads (readArguments (steps + 1) room named count) 0 := by
  rw [readArguments]
  refine (reads_accept rfl).bind fun _ => .ite (.ite reads_refuse (reads_pure [])) ?_
  have further : Reads (do
      if count ≠ 0 && (← Reader.accept (.mark .closeParen)) then
        if maxArguments < count then Reader.refuse else return []
      else
        let argument ← readArgument steps room
        if named && argument.1 = .positional then Reader.refuse
        else
          return argument :: (← readArguments steps room (named || argument.1.isNamed) (count + 1))) 0 := by
    refine (reads_accept rfl).bind fun _ => .ite (.ite reads_refuse (reads_pure [])) ?_
    refine (within.argument room).bind fun argument => .ite reads_refuse ?_
    exact (within.arguments room _ _).bind fun others => reads_pure _
  exact .ite ((reads_expect rfl).bind fun _ => further) further

theorem reads_readArgument : Reads (readArgument (steps + 1) room) 0 := by
  rw [readArgument]
  refine (reads_accept rfl).bind fun _ => .ite ((within.expr room).bind fun e => reads_pure _) ?_
  refine (reads_accept rfl).bind fun _ => .ite ((within.expr room).bind fun e => reads_pure _) ?_
  refine (within.expr room).bind fun e => ?_
  split
  · refine (reads_accept rfl).bind fun _ => .ite ?_ (reads_pure _)
    exact (within.level room .or).bind fun value => reads_pure _
  · exact reads_pure _

theorem reads_readModifiers (e : Expr) : Reads (readModifiers (steps + 1) room e) 0 := by
  rw [readModifiers]
  refine (reads_accept rfl).bind fun _ => .ite ?_ ?_
  · refine reads_takeName.bind fun name => (reads_accept rfl).bind fun _ => .ite ?_ (within.modifiers room _)
    exact (within.arguments room false 0).bind fun arguments => within.modifiers room _
  · refine (reads_accept rfl).bind fun _ => .ite ?_ (reads_pure e)
    refine (reads_accept rfl).bind fun negated => reads_takeName.bind fun name => ?_
    exact (within.testArguments room).bind fun arguments => within.modifiers room _

theorem reads_readTestArguments : Reads (readTestArguments (steps + 1) room) 0 := by
  rw [readTestArguments]
  refine (reads_accept rfl).bind fun _ => .ite (within.arguments room false 0) ?_
  refine reads_peek.bind fun _ => .ite ?_ (reads_pure [])
  exact (within.signed room).bind fun e => reads_pure _

end Step

theorem readsWithin (steps : Nat) : ReadsWithin steps := by
  induction steps with
  | zero => exact readsWithin_zero
  | succ steps within =>
    exact {
      expr := reads_readExpr within
      alternatives := reads_readAlternatives within
      level := reads_readLevel within
      chain := reads_readChain within
      operand := reads_readOperand within
      negation := reads_readNegation within
      comparisons := reads_readComparisons within
      signed := reads_readSigned within
      primary := reads_readPrimary within
      parenthesis := reads_readParenthesis within
      items := fun room _ => reads_readItems within room
      entries := reads_readEntries within
      attached := reads_readAttached within
      subscript := reads_readSubscript within
      bound := reads_readBound within
      arguments := reads_readArguments within
      argument := reads_readArgument within
      modifiers := reads_readModifiers within
      testArguments := reads_readTestArguments within }

/-- An accepted expression leaves no token and no brace open. -/
theorem closes_of_compile {source : String} {e : Expr} (accepted : compile source = .ok e) :
    Closes (scan source.toList) 0 := by
  unfold compile ofTokens at accepted
  generalize scan source.toList = tokens at accepted ⊢
  split at accepted
  · cases accepted
  · next read =>
    obtain ⟨taken, rfl, closed⟩ := (readsWithin _).expr _ _ _ _ read
    rwa [List.append_nil]
  · cases accepted
  · cases accepted

end BlockTemplates.Expr
