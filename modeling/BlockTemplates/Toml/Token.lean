import BlockTemplates.Toml.Moment
import BlockTemplates.Toml.Quoted

/-! The tokens of a TOML text. Where a key is expected, a run without quotes is a name and a point
is a token of its own; where a value is expected, the run is the whole text of a value. -/

namespace BlockTemplates.Toml

inductive Token where
  | lineEnd
  | comma
  | equals
  | dot
  | openBracket
  | closeBracket
  | openBrackets
  | closeBrackets
  | openBrace
  | closeBrace
  | quoted (text : String) (lines : Bool)
  | bare (run : List Char)
  deriving Repr, DecidableEq, Inhabited

inductive Mode where
  | key
  | value
  deriving Repr, DecidableEq, Inhabited

def isNameChar (c : Char) : Bool := c.isAlphanum || c = '-' || c = '_'

def isValueChar (c : Char) : Bool :=
  !(c = ',' || c = '[' || c = ']' || c = '{' || c = '}' || c = '#' || c = '=' || c = ' ' || c = '\t'
    || c = '\n' || c = '\r')

/-- Whether a run is a date, after which a blank and a time may follow. -/
def isDate (run : List Char) : Bool :=
  match date? run with
  | some (_, []) => true
  | _ => false

def run? (belongs : Char → Bool) (s : List Char) : Option (List Char × List Char) :=
  let run := s.takeWhile belongs
  if run.isEmpty then none else some (run, s.dropWhile belongs)

theorem run?_shorter {belongs : Char → Bool} {s rest run : List Char}
    (h : run? belongs s = some (run, rest)) : rest.length < s.length := by
  simp only [run?] at h
  split at h
  · simp at h
  · next filled =>
    have whole := congrArg List.length (List.takeWhile_append_dropWhile (p := belongs) (l := s))
    have positive : 0 < (s.takeWhile belongs).length :=
      List.length_pos_iff.mpr fun empty => filled (by simp [empty])
    obtain ⟨_, rfl⟩ := Prod.mk.inj (Option.some.inj h)
    rw [List.length_append] at whole
    omega

/-- A run and the time after it, when the run is a date that a blank and a time follow. -/
def withTime (run rest : List Char) : List Char × List Char :=
  match rest with
  | ' ' :: c :: more =>
    if isDate run && c.isDigit then
      (run ++ ' ' :: c :: more.takeWhile isValueChar, more.dropWhile isValueChar)
    else (run, rest)
  | _ => (run, rest)

theorem withTime_le (run rest : List Char) : (withTime run rest).2.length ≤ rest.length := by
  unfold withTime
  split
  · next more =>
    have bound := (List.dropWhile_sublist (l := more) isValueChar).length_le
    split <;> simp only [List.length_cons] <;> omega
  · exact Nat.le_refl _

def keyToken? : List Char → Option (Token × List Char)
  | '[' :: '[' :: rest => some (.openBrackets, rest)
  | '[' :: rest => some (.openBracket, rest)
  | ']' :: ']' :: rest => some (.closeBrackets, rest)
  | ']' :: rest => some (.closeBracket, rest)
  | '.' :: rest => some (.dot, rest)
  | s => (run? isNameChar s).map (fun (run, rest) => (.bare run, rest))

theorem keyToken?_shorter {s rest : List Char} {token : Token} (h : keyToken? s = some (token, rest)) :
    rest.length < s.length := by
  unfold keyToken? at h
  split at h
  all_goals simp only [Option.map_eq_some_iff, Option.some.injEq, Prod.mk.injEq, Prod.exists] at h
  any_goals (obtain ⟨_, rfl⟩ := h; simp only [List.length_cons]; omega)
  obtain ⟨_, _, found, _, rfl⟩ := h
  exact run?_shorter found

def valueToken? : List Char → Option (Token × List Char)
  | '[' :: rest => some (.openBracket, rest)
  | ']' :: rest => some (.closeBracket, rest)
  | s =>
    (run? isValueChar s).map (fun (run, rest) =>
      let (run, rest) := withTime run rest
      (.bare run, rest))

theorem valueToken?_shorter {s rest : List Char} {token : Token} (h : valueToken? s = some (token, rest)) :
    rest.length < s.length := by
  unfold valueToken? at h
  split at h
  all_goals simp only [Option.map_eq_some_iff, Option.some.injEq, Prod.mk.injEq, Prod.exists] at h
  any_goals (obtain ⟨_, rfl⟩ := h; simp only [List.length_cons]; omega)
  obtain ⟨run, after, found, _, rfl⟩ := h
  exact Nat.lt_of_le_of_lt (withTime_le run after) (run?_shorter found)

def quotedToken (lines : Bool) (read : List Char × List Char) : Token × List Char :=
  (.quoted (String.ofList read.1) lines, read.2)

def token? (mode : Mode) : List Char → Option (Token × List Char)
  | [] => none
  | '\n' :: rest => some (.lineEnd, rest)
  | '\r' :: '\n' :: rest => some (.lineEnd, rest)
  | '\r' :: _ => none
  | ',' :: rest => some (.comma, rest)
  | '=' :: rest => some (.equals, rest)
  | '{' :: rest => some (.openBrace, rest)
  | '}' :: rest => some (.closeBrace, rest)
  | '"' :: '"' :: '"' :: rest => (basicLines? false (dropLineEnd rest)).map (quotedToken true)
  | '"' :: rest => (basic? rest).map (quotedToken false)
  | '\'' :: '\'' :: '\'' :: rest => (literalLines? (dropLineEnd rest)).map (quotedToken true)
  | '\'' :: rest => (literal? rest).map (quotedToken false)
  | s => if mode = .key then keyToken? s else valueToken? s

theorem token?_shorter {mode : Mode} {s rest : List Char} {token : Token}
    (h : token? mode s = some (token, rest)) : rest.length < s.length := by
  unfold token? at h
  split at h
  any_goals simp only [Option.map_eq_some_iff, Option.some.injEq, Prod.mk.injEq, reduceCtorEq, quotedToken,
    Prod.exists] at h
  any_goals (obtain ⟨_, rfl⟩ := h; simp only [List.length_cons]; omega)
  · next more =>
    obtain ⟨_, _, found, _, rfl⟩ := h
    have bound := dropLineEnd_le more
    have := basicLines?_shorter found
    simp only [List.length_cons]
    omega
  · obtain ⟨_, _, found, _, rfl⟩ := h
    exact Nat.lt_succ_of_lt (basic?_shorter found)
  · next more =>
    obtain ⟨_, _, found, _, rfl⟩ := h
    have bound := dropLineEnd_le more
    have := literalLines?_shorter found
    simp only [List.length_cons]
    omega
  · obtain ⟨_, _, found, _, rfl⟩ := h
    exact Nat.lt_succ_of_lt (literal?_shorter found)
  · split at h
    · exact keyToken?_shorter h
    · exact valueToken?_shorter h

def afterComment? : List Char → Option (List Char)
  | [] => some []
  | c :: rest =>
    if c = '\n' || c = '\r' then some (c :: rest)
    else if isPlain c then afterComment? rest
    else none

theorem afterComment?_le {s rest : List Char} (h : afterComment? s = some rest) :
    rest.length ≤ s.length := by
  fun_induction afterComment? s <;> simp_all only [Option.some.injEq, reduceCtorEq, List.length_cons] <;> grind

end BlockTemplates.Toml
