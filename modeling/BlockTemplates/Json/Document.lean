import BlockTemplates.Json.Token

/-! The document that a list of tokens spells. A stack holds the arrays and objects that are still
open, innermost first, and a `Demand` says what may come next, so that reading is a fold over the
tokens. `Json.ofText?` reads a text. -/

namespace BlockTemplates.Json

/-- An open array with its items so far, or an open object with its members so far and the name
of the member being read; both latest first. -/
inductive Frame where
  | array (done : List Json)
  | object (done : List (Text × Json)) (key : Text)
  deriving Repr, Inhabited

inductive Demand where
  | value
  | firstItem
  | firstName
  | name (done : List (Text × Json))
  | colon (done : List (Text × Json)) (key : Text)
  /-- After a finished value: a comma, the end of what encloses it, or the end of the text. -/
  | after (value : Json)
  deriving Repr, Inhabited

structure Reading where
  stack : List Frame
  demand : Demand
  deriving Repr, Inhabited

def beginValue? (stack : List Frame) : Token → Option Reading
  | .null => some ⟨stack, .after .null⟩
  | .bool b => some ⟨stack, .after (.bool b)⟩
  | .number n => some ⟨stack, .after (.number n)⟩
  | .string text => some ⟨stack, .after (.string text)⟩
  | .openArray => some ⟨.array [] :: stack, .firstItem⟩
  | .openObject => some ⟨stack, .firstName⟩
  | _ => none

def Reading.step? (reading : Reading) (token : Token) : Option Reading :=
  match reading.demand, token, reading.stack with
  | .value, token, stack => beginValue? stack token
  | .firstItem, .closeArray, .array _ :: stack => some ⟨stack, .after (.array [])⟩
  | .firstItem, token, stack => beginValue? stack token
  | .firstName, .closeObject, stack => some ⟨stack, .after (.object [])⟩
  | .firstName, .string key, stack => some ⟨stack, .colon [] key⟩
  | .name done, .string key, stack => some ⟨stack, .colon done key⟩
  | .colon done key, .colon, stack => some ⟨.object done key :: stack, .value⟩
  | .after item, .comma, .array done :: stack => some ⟨.array (item :: done) :: stack, .value⟩
  | .after item, .closeArray, .array done :: stack => some ⟨stack, .after (.array (item :: done).reverse)⟩
  | .after item, .comma, .object done key :: stack => some ⟨stack, .name ((key, item) :: done)⟩
  | .after item, .closeObject, .object done key :: stack =>
    some ⟨stack, .after (.object ((key, item) :: done).reverse)⟩
  | _, _, _ => none

def Reading.run? (reading : Reading) : List Token → Option Reading
  | [] => some reading
  | token :: rest => (reading.step? token).bind (·.run? rest)

def ofTokens? (tokens : List Token) : Option Json :=
  match Reading.run? ⟨[], .value⟩ tokens with
  | some ⟨[], .after document⟩ => some document
  | _ => none

def ofText? (text : String) : Option Json := (tokens? text.toList).bind ofTokens?

end BlockTemplates.Json
