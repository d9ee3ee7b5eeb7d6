import BlockTemplates.Decimal.Numeral
import BlockTemplates.Decimal.Power

/-! Dates and times of day as TOML writes them, and their normal form: `T` between date and time,
`Z` for no offset, and no zeros at the end of a fraction of a second. -/

namespace BlockTemplates.Toml

structure Date where
  year : Nat
  month : Nat
  day : Nat
  deriving Repr, DecidableEq, Inhabited

/-- A time of day. Seconds may be left out, and so may their fraction, which is in nanoseconds. -/
structure Time where
  hour : Nat
  minute : Nat
  second : Option Nat
  nanosecond : Option Nat
  deriving Repr, DecidableEq, Inhabited

inductive Offset where
  | universal
  | minutes (ahead : Int)
  deriving Repr, DecidableEq, Inhabited

/-- A date, a time of day, or both; only both together can have an offset. -/
structure Moment where
  date : Option Date
  time : Option Time
  offset : Option Offset
  deriving Repr, DecidableEq, Inhabited

def padded (width n : Nat) : List Char :=
  let digits := Nat.toDigits 10 n
  List.replicate (width - digits.length) '0' ++ digits

def fixed? (count : Nat) (s : List Char) : Option (Nat × List Char) :=
  let digits := s.takeWhile Char.isDigit
  if digits.length = count then some (Decimal.foldDigits 0 digits, s.dropWhile Char.isDigit) else none

def after? (c : Char) : List Char → Option (List Char)
  | d :: rest => if d = c then some rest else none
  | [] => none

def isLeap (year : Nat) : Bool := year % 4 == 0 && (year % 100 != 0 || year % 400 == 0)

def daysIn (year month : Nat) : Nat :=
  if month = 2 then (if isLeap year then 29 else 28)
  else if month = 4 ∨ month = 6 ∨ month = 9 ∨ month = 11 then 30
  else 31

def date? (s : List Char) : Option (Date × List Char) := do
  let (year, rest) ← fixed? 4 s
  let (month, rest) ← fixed? 2 (← after? '-' rest)
  let (day, rest) ← fixed? 2 (← after? '-' rest)
  if 1 ≤ month ∧ month ≤ 12 ∧ 1 ≤ day ∧ day ≤ daysIn year month then some (⟨year, month, day⟩, rest)
  else none

/-- The nanoseconds that the digits of a fraction of a second spell; further digits are dropped. -/
def nanoseconds (digits : List Char) : Nat :=
  let kept := digits.take 9
  Decimal.foldDigits 0 kept * Decimal.tenTo (9 - kept.length)

def fraction? : List Char → Option (Option Nat × List Char)
  | '.' :: rest =>
    let digits := rest.takeWhile Char.isDigit
    if digits.isEmpty then none else some (some (nanoseconds digits), rest.dropWhile Char.isDigit)
  | rest => some (none, rest)

def time? (s : List Char) : Option (Time × List Char) := do
  let (hour, rest) ← fixed? 2 s
  let (minute, rest) ← fixed? 2 (← after? ':' rest)
  if 23 < hour ∨ 59 < minute then none
  else
    match rest with
    | ':' :: rest => do
      let (second, rest) ← fixed? 2 rest
      let (nanosecond, rest) ← fraction? rest
      if 60 < second then none else some (⟨hour, minute, some second, nanosecond⟩, rest)
    | rest => some (⟨hour, minute, none, none⟩, rest)

def offset? : List Char → Option (Option Offset)
  | [] => some none
  | c :: rest =>
    if c = 'Z' ∨ c = 'z' then (if rest.isEmpty then some (some .universal) else none)
    else if c = '+' ∨ c = '-' then do
      let (hours, rest) ← fixed? 2 rest
      let (minutes, rest) ← fixed? 2 (← after? ':' rest)
      if 23 < hours ∨ 59 < minutes ∨ !rest.isEmpty then none
      else
        let ahead : Int := hours * 60 + minutes
        some (some (.minutes (if c = '-' then -ahead else ahead)))
    else none

def moment? (s : List Char) : Option Moment :=
  match date? s with
  | some (date, []) => some ⟨some date, none, none⟩
  | some (date, c :: rest) =>
    if c = 'T' ∨ c = 't' ∨ c = ' ' then do
      let (time, rest) ← time? rest
      let offset ← offset? rest
      some ⟨some date, some time, offset⟩
    else none
  | none =>
    match time? s with
    | some (time, []) => some ⟨none, some time, none⟩
    | _ => none

def Date.text (date : Date) : List Char :=
  padded 4 date.year ++ '-' :: padded 2 date.month ++ '-' :: padded 2 date.day

def fractionText (nanosecond : Nat) : List Char :=
  let digits := ((padded 9 nanosecond).reverse.dropWhile (· = '0')).reverse
  if digits.isEmpty then ['0'] else digits

def Time.text (time : Time) : List Char :=
  let seconds := match time.second with
    | some second => ':' :: padded 2 second
    | none => []
  let fraction := match time.nanosecond with
    | some nanosecond => '.' :: fractionText nanosecond
    | none => []
  padded 2 time.hour ++ ':' :: padded 2 time.minute ++ seconds ++ fraction

def Offset.text : Offset → List Char
  | universal => ['Z']
  | minutes ahead =>
    (if ahead < 0 then '-' else '+') :: padded 2 (ahead.natAbs / 60) ++ ':' :: padded 2 (ahead.natAbs % 60)

def Moment.text (moment : Moment) : String :=
  let date := (moment.date.map Date.text).getD []
  let time := (moment.time.map Time.text).getD []
  let offset := (moment.offset.map Offset.text).getD []
  String.ofList (date ++ (if date.isEmpty || time.isEmpty then [] else ['T']) ++ time ++ offset)

end BlockTemplates.Toml
