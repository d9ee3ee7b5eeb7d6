import BlockTemplates.Yaml.Glyph

/-! What becomes of the blanks and line ends inside of a text that may go over lines: blanks at the
ends of lines are dropped, one line end is a space, and of more line ends the first is dropped. -/

namespace BlockTemplates.Yaml

/-- The blanks and line ends between two characters of a text. -/
inductive Gap where
  | blanks (text : List Char)
  /-- The first line end, which does not count when it is escaped, and those after it. -/
  | lines (first : Option Char) (more : List Char)
  deriving Repr, DecidableEq, Inhabited

namespace Gap

def empty : Gap := .blanks []

def hasLines : Gap → Bool
  | blanks _ => false
  | lines _ _ => true

def isEmpty : Gap → Bool
  | blanks text => text.isEmpty
  | lines _ _ => false

def add (c : Char) : Gap → Gap
  | blanks text => if isBreak c then .lines (some c) [] else .blanks (text ++ [c])
  | lines first more => if isBreak c then .lines first (more ++ [c]) else .lines first more

def text : Gap → List Char
  | blanks text => text
  | lines (some '\n') [] => [' ']
  | lines (some '\n') more => more
  | lines first more => first.toList ++ more

end Gap

end BlockTemplates.Yaml
