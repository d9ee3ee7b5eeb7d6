import BlockTemplates.Text.Blank

/-! Removal of white space from the literal text of pages: between two tags, and at the outer ends
of a page. -/

namespace BlockTemplates

def opensTag (s : List Char) : Bool := (Text.trimStart s).head? = some '<'

/-- The text without the blanks between a tag and the next one; `gap` while only blanks have come
since a tag. -/
def collapseFrom (gap : Bool) : List Char → List Char
  | [] => []
  | c :: rest =>
    if c = '>' then c :: collapseFrom true rest
    else if gap && Text.isBlank c then
      if opensTag rest then collapseFrom true rest else c :: collapseFrom true rest
    else c :: collapseFrom false rest

def collapse (text : String) : String := String.ofList (collapseFrom false text.toList)

def modifyLast {α : Type} (f : α → α) : List α → List α
  | [] => []
  | [last] => [f last]
  | first :: second :: rest => first :: modifyLast f (second :: rest)

def minify (literals : List String) : List String :=
  let collapsed := literals.map collapse
  let started := collapsed.modifyHead (fun s => String.ofList (Text.trimStart s.toList))
  modifyLast (fun s => String.ofList (Text.trimEnd s.toList)) started

end BlockTemplates
