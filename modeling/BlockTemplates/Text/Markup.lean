/-! Text made safe to stand in markup. -/

namespace BlockTemplates.Text

def markupChar (c : Char) : List Char :=
  if c = '<' then ['&', 'l', 't', ';']
  else if c = '>' then ['&', 'g', 't', ';']
  else if c = '&' then ['&', 'a', 'm', 'p', ';']
  else if c = '"' then ['&', 'q', 'u', 'o', 't', ';']
  else if c = '\'' then ['&', '#', 'x', '2', '7', ';']
  else if c = '/' then ['&', '#', 'x', '2', 'f', ';']
  else [c]

def markup (s : String) : String := String.ofList (s.toList.flatMap markupChar)

end BlockTemplates.Text
