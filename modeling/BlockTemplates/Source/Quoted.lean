import BlockTemplates.Text.Blank

/-! Expressions that are nothing but one string in quotes, read without evaluating them. -/

namespace BlockTemplates.Source

/-- The characters of a string between its quotes: after a backslash, `n` and `t` stand for a line
feed and a tab and any other character for itself. There is none when `quote` stands alone. -/
def unquoteBody? (quote : Char) : List Char → Option (List Char)
  | [] => some []
  | ['\\'] => none
  | '\\' :: c :: rest =>
    (unquoteBody? quote rest).map ((if c = 'n' then '\n' else if c = 't' then '\t' else c) :: ·)
  | c :: rest => if c = quote then none else (unquoteBody? quote rest).map (c :: ·)

def unquote? (expression : String) : Option String :=
  match Text.trim expression.toList with
  | [] => none
  | quote :: rest =>
    if quote = '"' ∨ quote = '\'' then
      ((Text.stripEnd? [quote] rest).bind (unquoteBody? quote)).map String.ofList
    else none

end BlockTemplates.Source
