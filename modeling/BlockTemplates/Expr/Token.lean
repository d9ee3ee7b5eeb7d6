import BlockTemplates.Expr.Error
import BlockTemplates.Expr.Literal

/-! Tokens of an expression. Names are ASCII, and so are the blanks between tokens. A text that is
no token ends the list with the error that a reader meets there, and not before. -/

namespace BlockTemplates.Expr

inductive Mark where
  | plus
  | minus
  | times
  | power
  | slash
  | doubleSlash
  | percent
  | tilde
  | equal
  | notEqual
  | less
  | lessEqual
  | greater
  | greaterEqual
  | assign
  | dot
  | comma
  | colon
  | pipe
  | openParen
  | closeParen
  | openBracket
  | closeBracket
  | openBrace
  | closeBrace
  deriving Repr, DecidableEq, Inhabited

inductive Token where
  | mark (m : Mark)
  | name (s : String)
  | text (s : String)
  | int (n : Nat)
  | float (x : Float)
  /-- The text goes on with something that is no token. -/
  | bad (error : Error)
  deriving Repr, BEq, Inhabited

def isGap (c : Char) : Bool := c = ' ' || c = '\t' || c = '\n' || c = '\x0c' || c = '\r'

def isNameStart (c : Char) : Bool := c.isAlpha || c = '_'

def isNameChar (c : Char) : Bool := c.isAlphanum || c = '_'

def doubleMark? : Char → Char → Option Mark
  | '/', '/' => some .doubleSlash
  | '*', '*' => some .power
  | '=', '=' => some .equal
  | '!', '=' => some .notEqual
  | '>', '=' => some .greaterEqual
  | '<', '=' => some .lessEqual
  | _, _ => none

def singleMark? : Char → Option Mark
  | '+' => some .plus
  | '-' => some .minus
  | '*' => some .times
  | '/' => some .slash
  | '%' => some .percent
  | '~' => some .tilde
  | '<' => some .less
  | '>' => some .greater
  | '=' => some .assign
  | '.' => some .dot
  | ',' => some .comma
  | ':' => some .colon
  | '|' => some .pipe
  | '(' => some .openParen
  | ')' => some .closeParen
  | '[' => some .openBracket
  | ']' => some .closeBracket
  | '{' => some .openBrace
  | '}' => some .closeBrace
  | _ => none

def markAt? (c : Char) (rest : List Char) : Option (Mark × List Char) :=
  match rest with
  | d :: after =>
    match doubleMark? c d with
    | some m => some (m, after)
    | none => (singleMark? c).map (·, rest)
  | [] => (singleMark? c).map (·, rest)

def stringToken (quote : Char) (rest : List Char) : Token × List Char :=
  match stringBody? quote rest with
  | none => (.bad .syntaxError, [])
  | some (body, after) =>
    match unescape? none body with
    | some text => (.text (String.ofList text), after)
    | none => (.bad .badStringEscape, [])

/-- The token at the start of `c :: rest`, and what follows it. Nothing follows a bad one. -/
def nextToken (c : Char) (rest : List Char) : Token × List Char :=
  match markAt? c rest with
  | some (m, after) => (.mark m, after)
  | none =>
    if c = '"' ∨ c = '\'' then stringToken c rest
    else if c.isDigit then
      match scanNumber (c :: rest) with
      | (none, _) => (.bad .syntaxError, [])
      | (some (.int n), after) => (.int n, after)
      | (some (.float x), after) => (.float x, after)
    else if isNameStart c then
      (.name (String.ofList (c :: rest.takeWhile isNameChar)), rest.dropWhile isNameChar)
    else (.bad .syntaxError, [])

theorem markAt?_le {c : Char} {rest after : List Char} {m : Mark}
    (h : markAt? c rest = some (m, after)) : after.length ≤ rest.length := by
  unfold markAt? at h
  split at h
  · split at h
    · simp only [Option.some.injEq, Prod.mk.injEq] at h
      simp [← h.2]
    · simp only [Option.map_eq_some_iff, Prod.mk.injEq] at h
      obtain ⟨_, _, _, rfl⟩ := h
      exact Nat.le_refl _
  · simp only [Option.map_eq_some_iff, Prod.mk.injEq] at h
    obtain ⟨_, _, _, rfl⟩ := h
    exact Nat.le_refl _

theorem stringBody?_le {quote : Char} {rest body after : List Char}
    (h : stringBody? quote rest = some (body, after)) : after.length ≤ rest.length := by
  fun_induction stringBody? quote rest generalizing body after with
  | case1 => simp at h
  | case2 => simp at h
  | case3 c rest ih =>
    simp only [Option.map_eq_some_iff, Prod.mk.injEq, Prod.exists] at h
    obtain ⟨_, _, found, _, rfl⟩ := h
    have := ih found
    simp only [List.length_cons]
    omega
  | case4 => simp_all
  | case5 c rest _ _ _ ih =>
    simp only [Option.map_eq_some_iff, Prod.mk.injEq, Prod.exists] at h
    obtain ⟨_, _, found, _, rfl⟩ := h
    have := ih found
    simp only [List.length_cons]
    omega

theorem stringToken_le (quote : Char) (rest : List Char) :
    (stringToken quote rest).2.length ≤ rest.length := by
  unfold stringToken
  split
  · simp
  · next found =>
    split
    · exact stringBody?_le found
    · simp

theorem spanNumber_le (hexadecimal : Bool) (part : NumberPart) (s : List Char) :
    (spanNumber hexadecimal part s).2.2.length ≤ s.length := by
  have whole := congrArg List.length (spanNumber_append hexadecimal part s)
  simp only [List.length_append] at whole
  omega

theorem scanNumber_shorter {c : Char} (h : c.isDigit) (rest : List Char) :
    (scanNumber (c :: rest)).2.length ≤ rest.length := by
  have radix : (radixOf (c :: rest)).2.length ≤ rest.length ∨ radixOf (c :: rest) = (10, c :: rest) := by
    unfold radixOf
    split <;> simp_all [List.length_cons]
  simp only [scanNumber]
  rcases radix with shorter | same
  · exact Nat.le_trans (spanNumber_le _ _ _) shorter
  · rw [same]
    have next : NumberPart.whole.next? false c = some .whole := by
      have dot : c ≠ '.' := by rintro rfl; simp at h
      have lower : c ≠ 'e' := by rintro rfl; simp at h
      have upper : c ≠ 'E' := by rintro rfl; simp at h
      simp [NumberPart.next?, h, dot, lower, upper]
    simp only [decide_false, if_true, Nat.reduceEqDiff, spanNumber, next]
    exact spanNumber_le _ _ _

theorem nextToken_le (c : Char) (rest : List Char) : (nextToken c rest).2.length ≤ rest.length := by
  unfold nextToken
  split
  · next found => exact markAt?_le found
  · split
    · exact stringToken_le _ _
    · split
      · next digit =>
        have shorter := scanNumber_shorter digit rest
        split <;> simp_all
      · split
        · exact (List.dropWhile_sublist _).length_le
        · simp

def scan : List Char → List Token
  | [] => []
  | c :: rest =>
    if isGap c then scan rest
    else
      have := nextToken_le c rest
      (nextToken c rest).1 :: scan (nextToken c rest).2
termination_by s => s.length

end BlockTemplates.Expr
