import BlockTemplates.Json

/-! The tokens of a JSON text. Blanks between tokens are space, tab, line feed and carriage
return. Each step of `tokens?` takes at least one character. -/

namespace BlockTemplates.Json

inductive Token where
  | openArray
  | closeArray
  | openObject
  | closeObject
  | comma
  | colon
  | null
  | bool (b : Bool)
  | number (n : Number)
  | string (text : Text)
  deriving Repr, DecidableEq, Inhabited

def hexDigit? (c : Char) : Option Nat :=
  if c.isDigit then some (c.toNat - '0'.toNat)
  else if 'a' ≤ c ∧ c ≤ 'f' then some (c.toNat - 'a'.toNat + 10)
  else if 'A' ≤ c ∧ c ≤ 'F' then some (c.toNat - 'A'.toNat + 10)
  else none

def hex4? (a b c d : Char) : Option Nat := do
  let a ← hexDigit? a
  let b ← hexDigit? b
  let c ← hexDigit? c
  let d ← hexDigit? d
  some (((a * 16 + b) * 16 + c) * 16 + d)

def isLeading (code : Nat) : Bool := 0xD800 ≤ code && code < 0xDC00

def isTrailing (code : Nat) : Bool := 0xDC00 ≤ code && code < 0xE000

def pairChar (leading trailing : Nat) : Char :=
  Char.ofNat (0x10000 + (leading - 0xD800) * 0x400 + (trailing - 0xDC00))

def shortEscape? : Char → Option Char
  | '"' => some '"'
  | '\\' => some '\\'
  | '/' => some '/'
  | 'b' => some '\x08'
  | 'f' => some '\x0c'
  | 'n' => some '\n'
  | 'r' => some '\r'
  | 't' => some '\t'
  | _ => none

private theorem length_dropWhile_le (p : Char → Bool) (s : List Char) :
    (s.dropWhile p).length ≤ s.length := (List.dropWhile_sublist p).length_le

inductive Piece where
  | char (c : Char)
  | unit (code : Nat)
  deriving Repr, DecidableEq, Inhabited

def pieces? : List Char → Option (List Piece × List Char)
  | [] => none
  | '"' :: rest => some ([], rest)
  | '\\' :: 'u' :: a :: b :: c :: d :: rest => do
    let code ← hex4? a b c d
    let (pieces, after) ← pieces? rest
    some (.unit code :: pieces, after)
  | '\\' :: c :: rest => do
    let escaped ← shortEscape? c
    let (pieces, after) ← pieces? rest
    some (.char escaped :: pieces, after)
  | c :: rest => do
    if c.toNat < 0x20 then none
    else
      let (pieces, after) ← pieces? rest
      some (.char c :: pieces, after)

/-- The characters that pieces spell, unless one of them is half of a surrogate pair. -/
def spell? : List Piece → Option (List Char)
  | [] => some []
  | .char c :: rest => (spell? rest).map (c :: ·)
  | .unit code :: .unit second :: rest =>
    if isLeading code then
      if isTrailing second then (spell? rest).map (pairChar code second :: ·) else none
    else if isTrailing code then none
    else (spell? (.unit second :: rest)).map (Char.ofNat code :: ·)
  | .unit code :: rest =>
    if isLeading code || isTrailing code then none
    else (spell? rest).map (Char.ofNat code :: ·)

theorem pieces?_shorter {s rest : List Char} {pieces : List Piece}
    (h : pieces? s = some (pieces, rest)) : rest.length < s.length := by
  fun_induction pieces? s generalizing pieces rest <;>
    simp_all [Option.bind_eq_some_iff] <;> grind

/-- A leading run of digits that is a whole number: not empty, and `0` only on its own. -/
def whole? (s : List Char) : Option (List Char × List Char) :=
  let digits := s.takeWhile Char.isDigit
  if digits.isEmpty || (digits.head? == some '0' && digits.length ≠ 1) then none
  else some (digits, s.dropWhile Char.isDigit)

def fraction? : List Char → Option (Option (List Char) × List Char)
  | '.' :: rest =>
    let digits := rest.takeWhile Char.isDigit
    if digits.isEmpty then none else some (some digits, rest.dropWhile Char.isDigit)
  | rest => some (none, rest)

def signed? (s : List Char) : Option (Option Int × List Char) :=
  let (negative, digits) := Decimal.takeSign s
  (Decimal.natOfDigits? (digits.takeWhile Char.isDigit)).map (fun n =>
    (some (if negative then -(n : Int) else n), digits.dropWhile Char.isDigit))

def exponent? : List Char → Option (Option Int × List Char)
  | 'e' :: rest => signed? rest
  | 'E' :: rest => signed? rest
  | rest => some (none, rest)

def number? (negative : Bool) (s : List Char) : Option (Number × List Char) := do
  let (whole, rest) ← whole? s
  let (fraction, rest) ← fraction? rest
  let (exponent, rest) ← exponent? rest
  some (⟨negative, whole, fraction, exponent⟩, rest)

theorem whole?_shorter {s rest digits : List Char} (h : whole? s = some (digits, rest)) :
    rest.length < s.length := by
  simp only [whole?] at h
  split at h
  · simp at h
  · next filled =>
    obtain ⟨rfl, rfl⟩ : s.takeWhile Char.isDigit = digits ∧ s.dropWhile Char.isDigit = rest := by
      simpa using h
    have whole := congrArg List.length (List.takeWhile_append_dropWhile (p := Char.isDigit) (l := s))
    have positive : 0 < (s.takeWhile Char.isDigit).length := by
      refine List.length_pos_iff.mpr fun empty => filled ?_
      simp [empty]
    simp only [List.length_append] at whole
    omega

theorem fraction?_le {s rest : List Char} {digits : Option (List Char)}
    (h : fraction? s = some (digits, rest)) : rest.length ≤ s.length := by
  unfold fraction? at h
  split at h
  · next more =>
    simp only at h
    split at h
    · simp at h
    · obtain ⟨_, rfl⟩ : _ ∧ more.dropWhile Char.isDigit = rest := by simpa using h
      have := length_dropWhile_le Char.isDigit more
      simp only [List.length_cons]
      omega
  · obtain ⟨_, rfl⟩ : _ ∧ s = rest := by simpa using h
    exact Nat.le_refl _

theorem signed?_le {s rest : List Char} {exponent : Option Int}
    (h : signed? s = some (exponent, rest)) : rest.length ≤ s.length := by
  simp only [signed?, Option.map_eq_some_iff, Prod.mk.injEq] at h
  obtain ⟨_, _, _, rfl⟩ := h
  refine Nat.le_trans (length_dropWhile_le _ _) ?_
  unfold Decimal.takeSign
  split <;> simp

theorem exponent?_le {s rest : List Char} {exponent : Option Int}
    (h : exponent? s = some (exponent, rest)) : rest.length ≤ s.length := by
  unfold exponent? at h
  split at h
  · exact Nat.le_succ_of_le (signed?_le h)
  · exact Nat.le_succ_of_le (signed?_le h)
  · obtain ⟨_, rfl⟩ : _ ∧ s = rest := by simpa using h
    exact Nat.le_refl _

theorem number?_shorter {negative : Bool} {s rest : List Char} {n : Number}
    (h : number? negative s = some (n, rest)) : rest.length < s.length := by
  simp only [number?, Option.bind_eq_bind, Option.bind_eq_some_iff] at h
  obtain ⟨⟨whole, a⟩, first, ⟨fraction, b⟩, second, ⟨exponent, c⟩, third, same⟩ := h
  have ha := whole?_shorter first
  have hb := fraction?_le second
  have hc := exponent?_le third
  dsimp only at ha hb hc
  obtain rfl : c = rest := by simpa using (Prod.mk.inj (Option.some.inj same)).2
  omega

def token? : List Char → Option (Token × List Char)
  | [] => none
  | '[' :: rest => some (.openArray, rest)
  | ']' :: rest => some (.closeArray, rest)
  | '{' :: rest => some (.openObject, rest)
  | '}' :: rest => some (.closeObject, rest)
  | ',' :: rest => some (.comma, rest)
  | ':' :: rest => some (.colon, rest)
  | 'n' :: 'u' :: 'l' :: 'l' :: rest => some (.null, rest)
  | 't' :: 'r' :: 'u' :: 'e' :: rest => some (.bool true, rest)
  | 'f' :: 'a' :: 'l' :: 's' :: 'e' :: rest => some (.bool false, rest)
  | '"' :: rest => (pieces? rest).map (fun (pieces, rest) => (.string ((spell? pieces).map String.ofList), rest))
  | '-' :: rest => (number? true rest).map (fun (n, rest) => (.number n, rest))
  | s => (number? false s).map (fun (n, rest) => (.number n, rest))

theorem token?_shorter {s rest : List Char} {token : Token}
    (h : token? s = some (token, rest)) : rest.length < s.length := by
  unfold token? at h
  split at h
  all_goals simp only [Option.map_eq_some_iff, Option.some.injEq, Prod.mk.injEq, reduceCtorEq] at h
  any_goals (obtain ⟨_, rfl⟩ := h; simp only [List.length_cons]; omega)
  · obtain ⟨_, found, _, rfl⟩ := h
    exact Nat.lt_succ_of_lt (pieces?_shorter found)
  · obtain ⟨_, found, _, rfl⟩ := h
    exact Nat.lt_succ_of_lt (number?_shorter found)
  · obtain ⟨_, found, _, rfl⟩ := h
    exact number?_shorter found

def isGap (c : Char) : Bool := c = ' ' || c = '\t' || c = '\n' || c = '\r'

def tokens? (s : List Char) : Option (List Token) :=
  match s with
  | [] => some []
  | c :: rest =>
    if isGap c then tokens? rest
    else
      match found : token? (c :: rest) with
      | none => none
      | some (token, after) =>
        have := token?_shorter found
        (tokens? after).map (token :: ·)
termination_by s.length
decreasing_by all_goals simp only [List.length_cons] at *; omega

end BlockTemplates.Json
