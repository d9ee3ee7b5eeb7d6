import BlockTemplates.Text.Search

/-! Indentation of the lines of a text. -/

namespace BlockTemplates.Text

def dropLineBreak (s : List Char) : List Char := dropReturn ((stripEnd? ['\n'] s).getD s)

/-- The text with its lines indented; the first line only when `first`, and lines that hold nothing
only when `empty`. -/
def indent (width : Nat) (first empty : Bool) (s : List Char) : List Char :=
  let blanks := List.replicate width ' '
  let indented (line : List Char) : List Char :=
    if line.isEmpty then (if empty then blanks else []) else blanks ++ line
  let ended :=
    match splitBy (· = '\n') (dropLineBreak s) with
    | [] => []
    | line :: rest => (if first then indented line else line) :: rest.map indented
  dropLineBreak (ended.flatMap (· ++ ['\n']))

end BlockTemplates.Text
