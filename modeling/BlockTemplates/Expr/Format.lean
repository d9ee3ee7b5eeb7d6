import BlockTemplates.Decimal.Fixed
import BlockTemplates.Expr.Argument

/-! Formats with percent signs. A directive is a percent sign, flags, a width, a precision and a
letter; each takes the next argument, and two percent signs stand for one. -/

namespace BlockTemplates.Expr

structure Directive where
  left : Bool
  plus : Bool
  blank : Bool
  zeros : Bool
  alternative : Bool
  width : Nat
  precision : Option Nat
  letter : Char

inductive FormatPiece where
  | char (c : Char)
  | directive (d : Directive)

def isFlag (c : Char) : Bool := c = '-' || c = '+' || c = ' ' || c = '0' || c = '#'

def directive? (s : List Char) : Option (Directive × List Char) :=
  let flags := s.takeWhile isFlag
  let afterFlags := s.dropWhile isFlag
  let width := Decimal.foldDigits 0 (afterFlags.takeWhile Char.isDigit)
  let afterWidth := afterFlags.dropWhile Char.isDigit
  let (precision, afterPrecision) : Option Nat × List Char :=
    match afterWidth with
    | '.' :: digits => (some (Decimal.foldDigits 0 (digits.takeWhile Char.isDigit)), digits.dropWhile Char.isDigit)
    | other => (none, other)
  match afterPrecision with
  | [] => none
  | letter :: after =>
    some (⟨flags.contains '-', flags.contains '+', flags.contains ' ', flags.contains '0',
      flags.contains '#', width, precision, letter⟩, after)

theorem directive?_shorter {s after : List Char} {d : Directive}
    (h : directive? s = some (d, after)) : after.length < s.length := by
  have drop (p : Char → Bool) (s : List Char) : (s.dropWhile p).length ≤ s.length :=
    (List.dropWhile_sublist p).length_le
  simp only [directive?] at h
  have flags := drop isFlag s
  have width := drop Char.isDigit (s.dropWhile isFlag)
  split at h
  · simp at h
  · next letter rest found =>
    obtain ⟨_, rfl⟩ := Prod.mk.inj (Option.some.inj h)
    split at found
    · next digits same =>
      have places := drop Char.isDigit digits
      simp only at found
      rw [found] at places
      rw [same] at width
      simp only [List.length_cons] at places width
      omega
    · simp only at found
      rw [found] at width
      simp only [List.length_cons] at width
      omega

def formatPieces? (s : List Char) : Option (List FormatPiece) :=
  match s with
  | [] => some []
  | '%' :: '%' :: rest => (formatPieces? rest).map (.char '%' :: ·)
  | '%' :: rest =>
    match found : directive? rest with
    | none => none
    | some (d, after) =>
      have := directive?_shorter found
      (formatPieces? after).map (.directive d :: ·)
  | c :: rest => (formatPieces? rest).map (.char c :: ·)
termination_by s.length

/-- A number in decimal or another radix, the size of which is given by `digits`. -/
def signedText (d : Directive) (negative : Bool) (digits : String) : String × String :=
  (if negative then "-" else if d.plus then "+" else if d.blank then " " else "", digits)

def directiveText (d : Directive) (argument : Value) : Answer (String × String) :=
  let radixText (radix : Nat) (mark : String) (upper : Bool) : Answer (String × String) := do
    let n ← Arguments.wholeOf argument
    let digits := String.ofList (Nat.toDigits radix n.natAbs)
    let digits := if upper then digits.map Char.toUpper else digits
    return signedText d (n < 0) ((if d.alternative then mark else "") ++ digits)
  let decimal : Answer (String × String) := do
    match argument with
    | .float x => return signedText d (x < 0.0) (Decimal.natText (Value.wholeOf x).natAbs)
    | argument =>
      let n ← orInvalid argument.asInt?
      return signedText d (n < 0) (Decimal.natText n.natAbs)
  if d.letter = 's' then
    let s := argument.display
    .ok ("", match d.precision with | some n => String.ofList (s.toList.take n) | none => s)
  else if d.letter = 'r' then .ok ("", argument.shown)
  else if d.letter = 'd' ∨ d.letter = 'i' ∨ d.letter = 'u' then decimal
  else if d.letter = 'x' then radixText 16 "0x" false
  else if d.letter = 'X' then radixText 16 "0X" true
  else if d.letter = 'o' then radixText 8 "0o" false
  else if d.letter = 'f' ∨ d.letter = 'F' then do
    let x ← orInvalid (argument.asFloat? true)
    return signedText d (x < 0.0) (Decimal.fixedText (d.precision.getD 6) x.abs)
  else invalid

def fillWidth (d : Directive) (sign body : String) : String :=
  let missing := d.width - (sign.length + body.length)
  let fill (c : Char) : String := String.ofList (List.replicate missing c)
  if d.left then sign ++ body ++ fill ' '
  else if d.zeros ∧ d.letter ≠ 's' then sign ++ fill '0' ++ body
  else fill ' ' ++ sign ++ body

def fillPieces : List FormatPiece → List Value → Answer String
  | [], _ => .ok ""
  | .char c :: rest, arguments => (fillPieces rest arguments).map (String.singleton c ++ ·)
  | .directive _ :: _, [] => .error .missingArgument
  | .directive d :: rest, argument :: arguments => do
    let (sign, body) ← directiveText d argument
    let following ← fillPieces rest arguments
    return fillWidth d sign body ++ following

def fillFormat (format : String) (arguments : List Value) : Answer String := do
  fillPieces (← orInvalid (formatPieces? format.toList)) arguments

end BlockTemplates.Expr
