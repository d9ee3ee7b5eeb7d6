import BlockTemplates.Text.Blank

/-! Finding, splitting and replacing parts of a text. The empty part stands before every character
and at the end. -/

namespace BlockTemplates.Text

def consFirst (c : Char) : List (List Char) → List (List Char)
  | [] => [[c]]
  | piece :: pieces => (c :: piece) :: pieces

/-- The pieces of a text between the places where a nonempty separator stands; the first `skip`
characters belong to a separator that has been found. -/
def piecesAt (separator : List Char) : Nat → List Char → List (List Char)
  | _, [] => [[]]
  | skip + 1, _ :: rest => piecesAt separator skip rest
  | 0, c :: rest =>
    if startsWith separator (c :: rest) then [] :: piecesAt separator (separator.length - 1) rest
    else consFirst c (piecesAt separator 0 rest)

def splitAt (separator s : List Char) : List (List Char) :=
  if separator.isEmpty then [] :: s.map (fun c => [c]) ++ [[]] else piecesAt separator 0 s

/-- The first pieces of a text, the last of which holds all that is left after `count` of them. -/
def splitAtMost (count : Nat) (separator s : List Char) : List (List Char) :=
  let pieces := splitAt separator s
  if count = 0 then []
  else if pieces.length ≤ count then pieces
  else pieces.take (count - 1) ++ [separator.intercalate (pieces.drop (count - 1))]

def replaceAll (part other s : List Char) : List Char := other.intercalate (splitAt part s)

def hasPart (part : List Char) : List Char → Bool
  | [] => part.isEmpty
  | c :: rest => startsWith part (c :: rest) || hasPart part rest

def splitBy (p : Char → Bool) : List Char → List (List Char)
  | [] => [[]]
  | c :: rest => if p c then [] :: splitBy p rest else consFirst c (splitBy p rest)

def words (s : List Char) : List (List Char) := (splitBy isBlank s).filter (!·.isEmpty)

/-- The first `count - 1` pieces of a text between single blanks and all that is left. -/
def splitBlanks : Nat → List Char → List (List Char)
  | 0, _ => []
  | 1, s => [s]
  | count + 2, s =>
    match s.dropWhile (!isBlank ·) with
    | [] => [s]
    | _ :: rest => s.takeWhile (!isBlank ·) :: splitBlanks (count + 1) rest

def dropReturn (line : List Char) : List Char := (stripEnd? ['\r'] line).getD line

/-- The lines of a text; a line feed at its end begins no further line. -/
def lines (s : List Char) : List (List Char) :=
  let pieces := splitBy (· = '\n') s
  let ended := if pieces.getLast? = some [] then pieces.dropLast else pieces
  ended.map dropReturn

end BlockTemplates.Text
