import BlockTemplates.Text.Search
import BlockTemplates.Toml

/-! Values that TOML writes without quotes: truth values, integers, floats and moments. -/

namespace BlockTemplates.Toml

/-- The digits of a run in which single underscores may stand between digits. -/
def joined? (isDigit : Char → Bool) (s : List Char) : Option (List Char) :=
  let groups := Text.splitBy (· = '_') s
  if groups.all (fun group => !group.isEmpty && group.all isDigit) then some groups.flatten else none

def ofDigits (base : Nat) (digits : List Char) : Nat :=
  digits.foldl (fun n c =>
    base * n + (if c.isDigit then c.toNat - '0'.toNat else c.toLower.toNat - 'a'.toNat + 10)) 0

def isHexDigit (c : Char) : Bool :=
  c.isDigit || ('a' ≤ c && c ≤ 'f') || ('A' ≤ c && c ≤ 'F')

/-- The decimal digits of a whole number: a zero comes first only on its own. -/
def wholeDigits? (s : List Char) : Option (List Char) := do
  let digits ← joined? Char.isDigit s
  if digits.head? = some '0' ∧ digits.length ≠ 1 then none else some digits

def basedInt? : List Char → Option Nat
  | '0' :: 'x' :: rest => (joined? isHexDigit rest).map (ofDigits 16)
  | '0' :: 'o' :: rest => (joined? (fun c => '0' ≤ c && c ≤ '7') rest).map (ofDigits 8)
  | '0' :: 'b' :: rest => (joined? (fun c => c = '0' || c = '1') rest).map (ofDigits 2)
  | _ => none

def isInDigits (c : Char) : Bool := c.isDigit || c = '_'

def places? : List Char → Option (List Char × List Char)
  | '.' :: rest => (joined? Char.isDigit (rest.takeWhile isInDigits)).map (·, rest.dropWhile isInDigits)
  | rest => some ([], rest)

def exponent? : List Char → Option Int
  | [] => some 0
  | mark :: rest =>
    if mark = 'e' ∨ mark = 'E' then
      let (negative, digits) := Decimal.takeSign rest
      (joined? Char.isDigit digits).map (fun digits =>
        let size : Int := Decimal.foldDigits 0 digits
        if negative then -size else size)
    else none

/-- The number that an unsigned decimal text spells: an integer unless it has a point or an
exponent. -/
def decimal? (negative : Bool) (s : List Char) : Option Toml := do
  let whole ← wholeDigits? (s.takeWhile isInDigits)
  let rest := s.dropWhile isInDigits
  let size := Decimal.foldDigits 0 whole
  if rest.isEmpty then some (.int (if negative then -(size : Int) else size))
  else
    let (places, rest) ← places? rest
    let exponent ← exponent? rest
    some (.float (.finite negative (Decimal.foldDigits size places) (exponent - places.length)))

def signed? (negative : Bool) (s : List Char) : Option Toml :=
  if s = ['i', 'n', 'f'] then some (.float (.infinite negative))
  else if s = ['n', 'a', 'n'] then some (.float .nan)
  else decimal? negative s

def scalar? (s : List Char) : Option Toml :=
  match s with
  | '+' :: rest => signed? false rest
  | '-' :: rest => signed? true rest
  | _ =>
    if s = ['t', 'r', 'u', 'e'] then some (.bool true)
    else if s = ['f', 'a', 'l', 's', 'e'] then some (.bool false)
    else ((basedInt? s).map (fun n => .int n)) <|> signed? false s <|> (moment? s).map .moment

end BlockTemplates.Toml
