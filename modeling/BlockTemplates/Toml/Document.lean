import BlockTemplates.Toml.Draft
import BlockTemplates.Toml.Scalar
import BlockTemplates.Toml.Token

/-! The document that a TOML text spells. A stack holds the arrays and inline tables that are still
open, innermost first, above the entry that they belong to; a `Demand` says what may come next.
`Toml.ofText?` reads a text. -/

namespace BlockTemplates.Toml

/-- An entry whose value is being read, an open array with its items so far, or an open inline
table with its fields so far and the path of the field being read; all latest first. -/
inductive Frame where
  | entry (path : List String)
  | array (done : List Toml)
  | table (done : List (List String × Toml)) (path : List String)
  deriving Repr, Inhabited

inductive Demand where
  | statement
  | headerName (isList : Bool) (path : List String)
  | headerNext (isList : Bool) (path : List String)
  | keyName (path : List String)
  | keyNext (path : List String)
  | value
  | item
  | field
  | after (v : Toml)
  | lineEnd
  deriving Repr, Inhabited

def Demand.mode : Demand → Mode
  | value => .value
  | item => .value
  | after _ => .value
  | lineEnd => .value
  | _ => .key

/-- The statements so far, latest first, what is open, and what may come next. -/
structure Reading where
  statements : List Statement
  stack : List Frame
  demand : Demand
  deriving Inhabited

def maxDepth : Nat := 80

namespace Reading

def endValue (reading : Reading) (stack : List Frame) (v : Toml) : Reading :=
  match stack with
  | .entry path :: stack => ⟨.entry path v :: reading.statements, stack, .lineEnd⟩
  | stack => { reading with stack, demand := .after v }

def enter? (reading : Reading) (frame : Frame) (demand : Demand) : Option Reading :=
  if reading.stack.length ≤ maxDepth then some { reading with stack := frame :: reading.stack, demand }
  else none

def beginValue? (reading : Reading) : Token → Option Reading
  | .quoted text _ => some (reading.endValue reading.stack (.string text))
  | .bare run => (scalar? run).map (reading.endValue reading.stack)
  | .openBracket => reading.enter? (.array []) .item
  | .openBrace => reading.enter? (.table [] []) .field
  | _ => none

def name? : Token → Option String
  | .quoted text false => some text
  | .bare run => some (String.ofList run)
  | _ => none

def keyName? (reading : Reading) (path : List String) (token : Token) : Option Reading :=
  (name? token).map (fun name => { reading with demand := .keyNext (path ++ [name]) })

def headerName? (reading : Reading) (isList : Bool) (path : List String) (token : Token) : Option Reading :=
  (name? token).map (fun name => { reading with demand := .headerNext isList (path ++ [name]) })

def endHeader (reading : Reading) (path : List String) (isList : Bool) : Reading :=
  ⟨.header path isList :: reading.statements, reading.stack, .lineEnd⟩

def endKey? (reading : Reading) (path : List String) : Option Reading :=
  match reading.stack with
  | [] => some { reading with stack := [.entry path], demand := .value }
  | .table done _ :: stack => some { reading with stack := .table done path :: stack, demand := .value }
  | _ => none

def endTable? (reading : Reading) (stack : List Frame) (fields : List (List String × Toml)) : Option Reading :=
  (inlineTable? fields.reverse).map (reading.endValue stack)

def step? (reading : Reading) (token : Token) : Option Reading :=
  match reading.demand, token, reading.stack with
  | .statement, .lineEnd, _ => some reading
  | .statement, .openBracket, _ => some { reading with demand := .headerName false [] }
  | .statement, .openBrackets, _ => some { reading with demand := .headerName true [] }
  | .statement, token, _ => reading.keyName? [] token
  | .headerName isList path, token, _ => reading.headerName? isList path token
  | .headerNext isList path, .dot, _ => some { reading with demand := .headerName isList path }
  | .headerNext false path, .closeBracket, _ => some (reading.endHeader path false)
  | .headerNext true path, .closeBrackets, _ => some (reading.endHeader path true)
  | .keyName path, token, _ => reading.keyName? path token
  | .keyNext path, .dot, _ => some { reading with demand := .keyName path }
  | .keyNext path, .equals, _ => reading.endKey? path
  | .value, token, _ => reading.beginValue? token
  | .item, .lineEnd, _ => some reading
  | .item, .closeBracket, .array done :: stack => some (reading.endValue stack (.array done.reverse))
  | .item, token, _ => reading.beginValue? token
  | .field, .lineEnd, _ => some reading
  | .field, .closeBrace, .table done _ :: stack => reading.endTable? stack done
  | .field, token, _ => reading.keyName? [] token
  | .after _, .lineEnd, _ => some reading
  | .after v, .comma, .array done :: stack =>
    some { reading with stack := .array (v :: done) :: stack, demand := .item }
  | .after v, .closeBracket, .array done :: stack =>
    some (reading.endValue stack (.array (v :: done).reverse))
  | .after v, .comma, .table done path :: stack =>
    some { reading with stack := .table ((path, v) :: done) [] :: stack, demand := .field }
  | .after v, .closeBrace, .table done path :: stack => reading.endTable? stack ((path, v) :: done)
  | .lineEnd, .lineEnd, _ => some { reading with demand := .statement }
  | _, _, _ => none

def run? (reading : Reading) (s : List Char) : Option Reading :=
  match s with
  | [] => some reading
  | c :: rest =>
    if c = ' ' ∨ c = '\t' then run? reading rest
    else if c = '#' then
      match found : afterComment? rest with
      | none => none
      | some after =>
        have := afterComment?_le found
        run? reading after
    else
      match found : token? reading.demand.mode (c :: rest) with
      | none => none
      | some (token, after) =>
        have := token?_shorter found
        (reading.step? token).bind (run? · after)
termination_by s.length
decreasing_by all_goals simp only [List.length_cons] at *; omega

def statements? (reading : Reading) : Option (List Statement) :=
  match reading.demand with
  | .statement => some reading.statements.reverse
  | .lineEnd => some reading.statements.reverse
  | _ => none

end Reading

def dropMark : List Char → List Char
  | '\uFEFF' :: rest => rest
  | rest => rest

def ofText? (text : String) : Option Toml := do
  let reading ← Reading.run? ⟨[], [], .statement⟩ (dropMark text.toList)
  ofStatements? (← reading.statements?)

end BlockTemplates.Toml
