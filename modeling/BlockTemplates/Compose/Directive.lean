import BlockTemplates.Text.Blank

/-! Composition markers. The whole trimmed text of an evaluated hole may be a marker in double
braces that opens a block, closes it, or names the page to extend. -/

namespace BlockTemplates

inductive Directive where
  | blockStart (name : String)
  | blockEnd
  /-- Declares the page a child of the named one. -/
  | extend (base : String)
  deriving Repr, DecidableEq, Inhabited

namespace Directive

def isWordChar (c : Char) : Bool := c.isAlphanum || c = '_'

def isIdentifier (text : List Char) : Bool := !text.isEmpty && text.all isWordChar

def endWord : List Char := ['e', 'n', 'd']

def extendWord : List Char := ['e', 'x', 't', 'e', 'n', 'd']

def body? (value : List Char) : Option (List Char) := do
  let opened ← Text.stripStart? ['{', '{'] (Text.trim value)
  let inner ← Text.stripEnd? ['}', '}'] opened
  some (Text.trim inner)

/-- The name after the word `extend` and at least one blank. -/
def baseOf? (body : List Char) : Option (List Char) := do
  let rest ← Text.stripStart? extendWord body
  let name := Text.trimStart rest
  if name.length = rest.length || !isIdentifier name then none else some name

def recognize? (value : String) : Option Directive := do
  let body ← body? value.toList
  if body = endWord then some .blockEnd
  else if isIdentifier body then
    if body = extendWord then none else some (.blockStart (String.ofList body))
  else (baseOf? body).map (fun name => .extend (String.ofList name))

def blockName? : Directive → Option String
  | blockStart name => some name
  | _ => none

def extendTarget? : Directive → Option String
  | extend base => some base
  | _ => none

def isBlockMarker : Directive → Bool
  | blockStart _ => true
  | blockEnd => true
  | extend _ => false

end Directive

end BlockTemplates
