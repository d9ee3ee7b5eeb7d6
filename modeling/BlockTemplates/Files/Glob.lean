/-! Patterns for paths. A pattern is matched against the bytes of a whole path: a question mark
stands for one byte and a star for any number of them, slashes excepted; two stars between slashes
stand for any number of folders. -/

namespace BlockTemplates

inductive GlobToken where
  | literal (c : Char)
  /-- One byte that is no slash. -/
  | one
  | many
  /-- Any folders at the start of a path. -/
  | foldersFirst
  | foldersLast
  /-- A slash, or any folders between two slashes. -/
  | foldersBetween
  /-- One byte of the bytes of some characters and ranges, or one of the others. -/
  | set (negated : Bool) (ranges : List (Char × Char))
  | choice (branches : List (List GlobToken))
  deriving Repr, Inhabited

abbrev Glob := List GlobToken

namespace Glob

def slash : UInt8 := 47

def afterMany : List UInt8 → List (List UInt8)
  | [] => [[]]
  | b :: rest => (b :: rest) :: (if b = slash then [] else afterMany rest)

def afterSlashes : List UInt8 → List (List UInt8)
  | [] => []
  | b :: rest => if b = slash then rest :: afterSlashes rest else afterSlashes rest

def tails : List UInt8 → List (List UInt8)
  | [] => [[]]
  | b :: rest => (b :: rest) :: tails rest

def afterFirstSlash : List UInt8 → List (List UInt8)
  | b :: rest => if b = slash then [rest] else []
  | [] => []

def bytesOf (c : Char) : List UInt8 := (String.singleton c).toUTF8.toList

/-- Whether a range of characters holds a byte. Of a character of several bytes each byte counts on
its own, and the range reaches from the last byte of its start to the first byte of its end. -/
def rangeHolds (b : UInt8) (range : Char × Char) : Bool :=
  let low := bytesOf range.1
  let high := bytesOf range.2
  if range.1 = range.2 then low.contains b
  else
    low.dropLast.contains b || high.tail.contains b
      || (low.getLast?.any (· ≤ b) && high.head?.any (b ≤ ·))

def afterBytes : List UInt8 → List UInt8 → List (List UInt8)
  | [], path => [path]
  | _ :: _, [] => []
  | b :: bytes, c :: path => if b = c then afterBytes bytes path else []

mutual

/-- Whether a part of a pattern stands for nothing because it is written as nothing. -/
def isVoid : GlobToken → Bool
  | .choice branches => areVoid branches
  | _ => false

def areVoid : List (List GlobToken) → Bool
  | [] => true
  | branch :: rest => allVoid branch && areVoid rest

def allVoid : List GlobToken → Bool
  | [] => true
  | token :: rest => isVoid token && allVoid rest

end

mutual

def after (token : GlobToken) (path : List UInt8) : List (List UInt8) :=
  match token with
  | .literal c => afterBytes (bytesOf c) path
  | .one =>
    match path with
    | b :: rest => if b = slash then [] else [rest]
    | [] => []
  | .many => afterMany path
  | .foldersFirst => path :: (afterFirstSlash path ++ afterSlashes path)
  | .foldersLast => (afterFirstSlash path).flatMap tails
  | .foldersBetween => (afterFirstSlash path).flatMap (fun rest => rest :: afterSlashes rest)
  | .set negated ranges =>
    match path with
    | b :: rest => if ranges.any (rangeHolds b) != negated then [rest] else []
    | [] => []
  | .choice branches => if areVoid branches then [path] else afterChoice branches path

def afterChoice (branches : List (List GlobToken)) (path : List UInt8) : List (List UInt8) :=
  match branches with
  | [] => []
  | branch :: rest => (if allVoid branch then [] else afterAll branch [path]) ++ afterChoice rest path

def afterAll (tokens : List GlobToken) (paths : List (List UInt8)) : List (List UInt8) :=
  match tokens with
  | [] => paths
  | token :: rest => afterAll rest (paths.flatMap (after token)).eraseDups

end

/-- Whether a pattern matches a whole path. A pattern of two stars matches everything. -/
def isMatch (glob : Glob) (path : String) : Bool :=
  match glob with
  | [.foldersFirst] => true
  | _ => (afterAll glob [path.toUTF8.toList]).any List.isEmpty

end Glob

structure GlobFrame where
  done : List (List GlobToken)
  current : List GlobToken
  deriving Inhabited

/-- What has been read of a pattern: the innermost choice, the ones around it, the character before,
and whether brackets are ordinary because one was never closed. -/
structure GlobReading where
  frame : GlobFrame
  outer : List GlobFrame
  before : Option Char
  plainBrackets : Bool
  deriving Inhabited

namespace GlobReading

def start : GlobReading := ⟨⟨[], []⟩, [], none, false⟩

def push (reading : GlobReading) (tokens : List GlobToken) : GlobReading :=
  { reading with frame := { reading.frame with current := tokens ++ reading.frame.current } }

def openChoice (reading : GlobReading) : GlobReading :=
  { reading with frame := ⟨[], []⟩, outer := reading.frame :: reading.outer }

def branches (frame : GlobFrame) : List (List GlobToken) :=
  (frame.current.reverse :: frame.done).reverse

def closeChoice? (reading : GlobReading) : Option GlobReading :=
  match reading.outer with
  | [] => none
  | frame :: outer =>
    some { reading with
      frame := { frame with current := .choice (branches reading.frame) :: frame.current }
      outer := outer }

def comma (reading : GlobReading) : GlobReading :=
  if reading.outer.isEmpty then reading.push [.literal ',']
  else { reading with frame := ⟨reading.frame.current.reverse :: reading.frame.done, []⟩ }

def folders (reading : GlobReading) (token : GlobToken) : GlobReading :=
  match reading.frame.current with
  | .foldersFirst :: _ => reading
  | .foldersLast :: _ => reading
  | _ :: rest => { reading with frame := { reading.frame with current := token :: rest } }
  | [] => reading.push [token]

/-- A star before `rest`: what is read then, and how many characters of `rest` belong to it. -/
def star (reading : GlobReading) (rest : List Char) : GlobReading × Nat :=
  match rest with
  | '*' :: following =>
    let inside := !reading.outer.isEmpty
    let plain := (reading.push [.many, .many], 1)
    if reading.frame.current.isEmpty then
      match following with
      | [] => (reading.push [.foldersFirst], 1)
      | '/' :: _ => (reading.push [.foldersFirst], 2)
      | _ => plain
    else if reading.before ≠ some '/'
        && (!inside || (reading.before ≠ some ',' && reading.before ≠ some '{')) then plain
    else
      match following with
      | [] => (reading.folders .foldersLast, 1)
      | '/' :: _ => (reading.folders .foldersBetween, 2)
      | c :: _ => if inside && (c = ',' || c = '}') then (reading.folders .foldersLast, 1) else plain
  | _ => (reading.push [.many], 0)

end GlobReading

inductive SetReading where
  | closed (ranges : List (Char × Char)) (length : Nat)
  | unclosed
  | reversed

/-- The set after an opening bracket and its negation, if that is closed. `ranges` have been read,
latest first; `ranging` after a minus sign that may make a range; `count` characters were read. -/
def readSet (ranges : List (Char × Char)) (first ranging : Bool) (count : Nat) : List Char → SetReading
  | [] => .unclosed
  | c :: rest =>
    if c = ']' ∧ !first then
      .closed (if ranging then ('-', '-') :: ranges else ranges).reverse (count + 1)
    else if c = '-' ∧ !first ∧ !ranging then readSet ranges false true (count + 1) rest
    else if ranging then
      match ranges with
      | (low, _) :: others =>
        if c < low then .reversed else readSet ((low, c) :: others) false false (count + 1) rest
      | [] => .reversed
    else readSet ((c, c) :: ranges) false false (count + 1) rest

def GlobReading.step? (reading : GlobReading) (c : Char) (rest : List Char) : Option (GlobReading × Nat) :=
  if c = '?' then some (reading.push [.one], 0)
  else if c = '*' then some (reading.star rest)
  else if c = '[' ∧ !reading.plainBrackets then
    let negated := rest.head? = some '!' || rest.head? = some '^'
    match readSet [] true false 0 (if negated then rest.tail else rest) with
    | .closed ranges length => some (reading.push [.set negated ranges], length + if negated then 1 else 0)
    | .unclosed => some ({ reading with plainBrackets := true }.push [.literal '['], 0)
    | .reversed => none
  else if c = '{' then some (reading.openChoice, 0)
  else if c = '}' then reading.closeChoice?.map (·, 0)
  else if c = ',' then some (reading.comma, 0)
  else if c = '\\' then rest.head?.map (fun escaped => (reading.push [.literal escaped], 1))
  else some (reading.push [.literal c], 0)

/-- What is read of a pattern after a text of which the first `skip` characters are done with. -/
def GlobReading.run? (reading : GlobReading) (skip : Nat) : List Char → Option GlobReading
  | [] => some reading
  | c :: rest =>
    match skip with
    | skip + 1 => GlobReading.run? { reading with before := some c } skip rest
    | 0 => do
      let (read, skip) ← reading.step? c rest
      GlobReading.run? { read with before := some c } skip rest

def Glob.ofText? (text : String) : Option Glob := do
  let reading ← GlobReading.start.run? 0 text.toList
  if reading.outer.isEmpty then some reading.frame.current.reverse else none

end BlockTemplates
