import BlockTemplates.Text.Blank

/-! Tokens of a page source. A token is the longest one that starts at a position. -/

namespace BlockTemplates.Source

inductive Token where
  | openHole
  | escapedOpen
  /-- Two backslashes before an opening of a hole. -/
  | backslashOpen
  | openBrace
  | closeBrace
  | doubleQuote
  | singleQuote
  | backslash
  | dollar
  | text (run : List Char)
  deriving Repr, DecidableEq, Inhabited

def isSpecial (c : Char) : Bool :=
  c = '$' || c = '{' || c = '}' || c = '"' || c = '\'' || c = '\\'

namespace Token

def chars : Token → List Char
  | openHole => ['$', '{']
  | escapedOpen => ['\\', '$', '{']
  | backslashOpen => ['\\', '\\', '$', '{']
  | openBrace => ['{']
  | closeBrace => ['}']
  | doubleQuote => ['"']
  | singleQuote => ['\'']
  | backslash => ['\\']
  | dollar => ['$']
  | text run => run

end Token

/-- The longest token at the start of `c :: rest`, and what follows it. -/
def next (c : Char) (rest : List Char) : Token × List Char :=
  match c, rest with
  | '\\', '\\' :: '$' :: '{' :: rest => (.backslashOpen, rest)
  | '\\', '$' :: '{' :: rest => (.escapedOpen, rest)
  | '$', '{' :: rest => (.openHole, rest)
  | '\\', rest => (.backslash, rest)
  | '$', rest => (.dollar, rest)
  | '{', rest => (.openBrace, rest)
  | '}', rest => (.closeBrace, rest)
  | '"', rest => (.doubleQuote, rest)
  | '\'', rest => (.singleQuote, rest)
  | c, rest => (.text (c :: rest.takeWhile (!isSpecial ·)), rest.dropWhile (!isSpecial ·))

theorem chars_next (c : Char) (rest : List Char) :
    (next c rest).1.chars ++ (next c rest).2 = c :: rest := by
  unfold next
  split <;> simp [Token.chars, List.takeWhile_append_dropWhile]

theorem next_le (c : Char) (rest : List Char) : (next c rest).2.length ≤ rest.length := by
  unfold next
  split
  case h_10 => exact (List.dropWhile_sublist _).length_le
  all_goals simp only [List.length_cons]; omega

def scan : List Char → List Token
  | [] => []
  | c :: rest =>
    have := next_le c rest
    (next c rest).1 :: scan (next c rest).2
termination_by source => source.length

end BlockTemplates.Source
