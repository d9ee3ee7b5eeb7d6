import BlockTemplates.Decimal.Numeral
import BlockTemplates.Decimal.Power

/-! The literals of expressions. Numbers may be written in four radixes with underscores between
their digits; strings have the escapes of JSON strings and a few more. -/

namespace BlockTemplates.Expr

inductive NumberPart where
  | radix
  | whole
  | fraction
  | mark
  | exponent
  deriving Repr, DecidableEq, Inhabited

/-- What a further character of a number leads to; an underscore may stand anywhere. -/
def NumberPart.next? (part : NumberPart) (hexadecimal : Bool) (c : Char) : Option NumberPart :=
  if c = '.' ∧ part = .whole then some .fraction
  else if (c = 'e' ∨ c = 'E') ∧ (part = .whole ∨ part = .fraction) then some .mark
  else if (c = '+' ∨ c = '-') ∧ part = .mark then some .exponent
  else if c.isDigit then some (if part = .mark then .exponent else part)
  else if hexadecimal && (('a' ≤ c && c ≤ 'f') || ('A' ≤ c && c ≤ 'F')) then some part
  else if c = '_' then some part
  else none

def spanNumber (hexadecimal : Bool) (part : NumberPart) : List Char → List Char × NumberPart × List Char
  | [] => ([], part, [])
  | c :: rest =>
    match part.next? hexadecimal c with
    | none => ([], part, c :: rest)
    | some next =>
      let (taken, reached, after) := spanNumber hexadecimal next rest
      (c :: taken, reached, after)

theorem spanNumber_append (hexadecimal : Bool) (part : NumberPart) (s : List Char) :
    (spanNumber hexadecimal part s).1 ++ (spanNumber hexadecimal part s).2.2 = s := by
  fun_induction spanNumber hexadecimal part s <;> simp_all

def digitIn? (radix : Nat) (c : Char) : Option Nat :=
  let value :=
    if c.isDigit then c.toNat - '0'.toNat
    else if 'a' ≤ c ∧ c ≤ 'z' then c.toNat - 'a'.toNat + 10
    else if 'A' ≤ c ∧ c ≤ 'Z' then c.toNat - 'A'.toNat + 10
    else radix
  if value < radix then some value else none

def digitsIn? (radix start : Nat) : List Char → Option Nat
  | [] => some start
  | c :: rest => (digitIn? radix c).bind (fun d => digitsIn? radix (radix * start + d) rest)

def numberIn? (radix : Nat) (digits : List Char) : Option Nat :=
  if digits.isEmpty then none else digitsIn? radix 0 digits

def signedIn? (radix : Nat) : List Char → Option Nat
  | '+' :: digits => numberIn? radix digits
  | digits => numberIn? radix digits

inductive Number where
  | int (n : Nat)
  | float (x : Float)

/-- The number that the characters of a literal spell, without its radix mark. Integers have at
most 128 bits. -/
def numberOf? (radix : Nat) (chars : List Char) (reached : NumberPart) : Option Number :=
  if chars.getLast? = some '_' then none
  else
    let digits := chars.filter (· ≠ '_')
    if reached = .radix ∨ reached = .whole then
      (numberIn? radix digits).bind (fun n => if n < Decimal.twoTo 128 then some (.int n) else none)
    else (Decimal.floatOf? digits).map .float

def radixOf : List Char → Nat × List Char
  | '0' :: 'b' :: rest => (2, rest)
  | '0' :: 'B' :: rest => (2, rest)
  | '0' :: 'o' :: rest => (8, rest)
  | '0' :: 'O' :: rest => (8, rest)
  | '0' :: 'x' :: rest => (16, rest)
  | '0' :: 'X' :: rest => (16, rest)
  | rest => (10, rest)

def scanNumber (s : List Char) : Option Number × List Char :=
  let (radix, digits) := radixOf s
  let (taken, reached, rest) := spanNumber (radix = 16) (if radix = 10 then .whole else .radix) digits
  (numberOf? radix taken reached, rest)

def stringBody? (quote : Char) : List Char → Option (List Char × List Char)
  | [] => none
  | ['\\'] => none
  | '\\' :: c :: rest => (stringBody? quote rest).map (fun (body, after) => ('\\' :: c :: body, after))
  | c :: rest =>
    if c = quote then some ([], rest)
    else (stringBody? quote rest).map (fun (body, after) => (c :: body, after))

def letterEscape? : Char → Option Char
  | '"' => some '"'
  | '\\' => some '\\'
  | '/' => some '/'
  | '\'' => some '\''
  | 'b' => some '\x08'
  | 'f' => some '\x0c'
  | 'n' => some '\n'
  | 'r' => some '\r'
  | 't' => some '\t'
  | _ => none

def isOctal (c : Char) : Bool := '0' ≤ c && c ≤ '7'

def isSurrogate (code : Nat) : Bool := 0xD800 ≤ code && code < 0xE000

def joinSurrogates? (leading trailing : Nat) : Option Char :=
  if leading < 0xDC00 ∧ 0xDC00 ≤ trailing then
    some (Char.ofNat (0x10000 + (leading - 0xD800) * 0x400 + (trailing - 0xDC00)))
  else none

/-- The characters that a string body stands for. While the first half of a surrogate pair is
`pending`, only an escape of its second half may follow. -/
def unescape? (pending : Option Nat) (body : List Char) : Option (List Char) :=
  let push (c : Char) (rest : Option (List Char)) : Option (List Char) :=
    if pending.isSome then none else rest.map (c :: ·)
  match body with
  | [] => if pending.isSome then none else some []
  | '\\' :: 'u' :: a :: b :: c :: d :: rest =>
    match signedIn? 16 [a, b, c, d] with
    | none => none
    | some code =>
      match pending with
      | none => if isSurrogate code then unescape? (some code) rest else push (Char.ofNat code) (unescape? none rest)
      | some leading =>
        if isSurrogate code then
          (joinSurrogates? leading code).bind (fun c => (unescape? none rest).map (c :: ·))
        else none
  | '\\' :: 'u' :: _ => none
  | '\\' :: 'x' :: a :: b :: rest =>
    match signedIn? 16 [a, b] with
    | none => none
    | some code => push (Char.ofNat code) (unescape? none rest)
  | '\\' :: 'x' :: _ => none
  | '\\' :: a :: rest =>
    match letterEscape? a with
    | some c => push c (unescape? none rest)
    | none =>
      if isOctal a then
        let further := (rest.take 2).takeWhile isOctal
        match numberIn? 8 (a :: further) with
        | none => none
        | some code =>
          if code < 256 then push (Char.ofNat code) (unescape? none (rest.drop further.length)) else none
      else push '\\' ((unescape? none rest).map (a :: ·))
  | ['\\'] => none
  | c :: rest => push c (unescape? none rest)
termination_by body.length
decreasing_by all_goals simp only [List.length_cons, List.length_drop]; omega

end BlockTemplates.Expr
