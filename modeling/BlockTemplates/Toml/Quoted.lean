import BlockTemplates.Json.Token

/-! Strings in quotes as TOML writes them. Double quotes allow escapes, single quotes do not;
three quotes allow lines. Every reader answers the text and what follows the closing quotes, which
is shorter than what it was given. -/

namespace BlockTemplates.Toml

def isPlain (c : Char) : Bool := c = '\t' || (0x20 ≤ c.toNat && c.toNat ≠ 0x7f)

def hexNumber? (digits : List Char) : Option Nat :=
  digits.foldlM (fun n c => (Json.hexDigit? c).map (16 * n + ·)) 0

def charOf? (code : Nat) : Option Char := if code.isValidChar then some (Char.ofNat code) else none

def hexChar? (digits : List Char) : Option Char := (hexNumber? digits).bind charOf?

def shortEscape? : Char → Option Char
  | '"' => some '"'
  | '\\' => some '\\'
  | 'b' => some '\x08'
  | 'e' => some '\x1b'
  | 'f' => some '\x0c'
  | 'n' => some '\n'
  | 'r' => some '\r'
  | 't' => some '\t'
  | _ => none

def escape? : List Char → Option (Char × List Char)
  | 'x' :: a :: b :: rest => (hexChar? [a, b]).map (·, rest)
  | 'u' :: a :: b :: c :: d :: rest => (hexChar? [a, b, c, d]).map (·, rest)
  | 'U' :: a :: b :: c :: d :: e :: f :: g :: h :: rest => (hexChar? [a, b, c, d, e, f, g, h]).map (·, rest)
  | c :: rest => (shortEscape? c).map (·, rest)
  | [] => none

theorem escape?_shorter {s rest : List Char} {c : Char} (h : escape? s = some (c, rest)) :
    rest.length < s.length := by
  unfold escape? at h
  split at h
  all_goals simp only [Option.map_eq_some_iff, Prod.mk.injEq, reduceCtorEq] at h
  all_goals
    obtain ⟨_, _, _, rfl⟩ := h
    simp only [List.length_cons]
    omega

def basic? (s : List Char) : Option (List Char × List Char) :=
  match s with
  | [] => none
  | '"' :: rest => some ([], rest)
  | '\\' :: rest =>
    match found : escape? rest with
    | none => none
    | some (c, after) =>
      have := escape?_shorter found
      (basic? after).map (fun (text, rest) => (c :: text, rest))
  | c :: rest => if isPlain c then (basic? rest).map (fun (text, rest) => (c :: text, rest)) else none
termination_by s.length

theorem basic?_shorter {s rest text : List Char} (h : basic? s = some (text, rest)) :
    rest.length < s.length := by
  fun_induction basic? s generalizing text rest <;>
    simp_all only [Option.map_eq_some_iff, Prod.mk.injEq, Option.some.injEq, reduceCtorEq, List.length_cons,
      Prod.exists] <;> grind

def literal? : List Char → Option (List Char × List Char)
  | [] => none
  | '\'' :: rest => some ([], rest)
  | c :: rest => if isPlain c then (literal? rest).map (fun (text, rest) => (c :: text, rest)) else none

theorem literal?_shorter {s rest text : List Char} (h : literal? s = some (text, rest)) :
    rest.length < s.length := by
  fun_induction literal? s generalizing text rest <;>
    simp_all only [Option.map_eq_some_iff, Prod.mk.injEq, Option.some.injEq, reduceCtorEq, List.length_cons,
      Prod.exists] <;> grind

/-- What follows the quotes that close a string of lines, and how many more of them belong to its
text: three close it, and up to two may stand before these. -/
def closing? (quote : Char) (s : List Char) : Option (Nat × List Char) :=
  let count := (s.takeWhile (· = quote)).length
  if 3 ≤ count then
    let extra := min (count - 3) 2
    some (extra, s.drop (3 + extra))
  else none

theorem closing?_shorter {quote : Char} {s rest : List Char} {extra : Nat}
    (h : closing? quote s = some (extra, rest)) : rest.length < s.length := by
  simp only [closing?] at h
  split at h
  · next enough =>
    have bound := (List.takeWhile_sublist (l := s) (· = quote)).length_le
    obtain ⟨_, rfl⟩ : _ ∧ s.drop (3 + min ((s.takeWhile (· = quote)).length - 3) 2) = rest := by
      simpa using h
    simp only [List.length_drop]
    omega
  · simp at h

def isMargin (c : Char) : Bool := c = ' ' || c = '\t' || c = '\n' || c = '\r'

def endsLine (s : List Char) : Bool :=
  match s.dropWhile (fun c => c = ' ' || c = '\t') with
  | '\n' :: _ => true
  | '\r' :: '\n' :: _ => true
  | _ => false

def isPlainBefore (c : Char) (rest : List Char) : Bool :=
  isPlain c || c = '\n' || (c = '\r' && rest.head? = some '\n')

/-- The text of a string of lines after its opening double quotes, and what follows its closing
ones. While `trimming`, the margin after a backslash at the end of a line is left out. -/
def basicLines? (trimming : Bool) (s : List Char) : Option (List Char × List Char) :=
  match s with
  | [] => none
  | c :: rest =>
    if trimming && isMargin c then
      if isPlainBefore c rest then basicLines? true rest else none
    else if c = '"' then
      match closing? '"' (c :: rest) with
      | some (extra, after) => some (List.replicate extra '"', after)
      | none => (basicLines? false rest).map (fun (text, rest) => (c :: text, rest))
    else if c = '\\' then
      if endsLine rest then basicLines? true rest
      else
        match found : escape? rest with
        | none => none
        | some (escaped, after) =>
          have := escape?_shorter found
          (basicLines? false after).map (fun (text, rest) => (escaped :: text, rest))
    else if isPlainBefore c rest then
      (basicLines? false rest).map (fun (text, rest) => (c :: text, rest))
    else none
termination_by s.length

theorem basicLines?_shorter {trimming : Bool} {s rest text : List Char}
    (h : basicLines? trimming s = some (text, rest)) : rest.length < s.length := by
  fun_induction basicLines? trimming s generalizing text rest
  case case4 closed =>
    obtain ⟨_, rfl⟩ := Prod.mk.inj (Option.some.inj h)
    exact closing?_shorter closed
  all_goals
    simp_all only [Option.map_eq_some_iff, Prod.mk.injEq, reduceCtorEq, List.length_cons, Prod.exists]
  all_goals grind

def literalLines? : List Char → Option (List Char × List Char)
  | [] => none
  | c :: rest =>
    match closing? '\'' (c :: rest) with
    | some (extra, after) => some (List.replicate extra '\'', after)
    | none =>
      if isPlainBefore c rest then (literalLines? rest).map (fun (text, rest) => (c :: text, rest)) else none

theorem literalLines?_shorter {s rest text : List Char}
    (h : literalLines? s = some (text, rest)) : rest.length < s.length := by
  fun_induction literalLines? s generalizing text rest
  case case2 closed =>
    obtain ⟨_, rfl⟩ := Prod.mk.inj (Option.some.inj h)
    exact closing?_shorter closed
  all_goals
    simp_all only [Option.map_eq_some_iff, Prod.mk.injEq, reduceCtorEq, List.length_cons, Prod.exists]
  all_goals grind

def dropLineEnd : List Char → List Char
  | '\n' :: rest => rest
  | '\r' :: '\n' :: rest => rest
  | rest => rest

theorem dropLineEnd_le (s : List Char) : (dropLineEnd s).length ≤ s.length := by
  unfold dropLineEnd
  split <;> simp
  omega

end BlockTemplates.Toml
