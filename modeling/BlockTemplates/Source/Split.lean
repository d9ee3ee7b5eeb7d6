import BlockTemplates.Source.Token

/-! Splitting a page source into literal text and the expressions of its holes. A hole opens with
a dollar sign and a brace and ends with the brace that balances it; braces in quoted strings do
not count. One backslash before an opening makes it literal text; of more backslashes before it
one is dropped. There is one more literal than there are holes. -/

namespace BlockTemplates.Source

/-- A place in a source, both numbers counted from one. -/
structure Position where
  line : Nat
  column : Nat
  deriving Repr, DecidableEq, Inhabited

namespace Position

def start : Position := ⟨1, 1⟩

def after (place : Position) (c : Char) : Position :=
  if c = '\n' then ⟨place.line + 1, 1⟩ else ⟨place.line, place.column + 1⟩

def afterAll (place : Position) (text : List Char) : Position := text.foldl after place

end Position

/-- The expression of a hole, trimmed, and the place where the hole opens. -/
structure Hole where
  source : String
  position : Position
  deriving Repr, DecidableEq, Inhabited

structure Parts where
  literals : List String
  holes : List Hole
  deriving Repr, DecidableEq, Inhabited

inductive Context where
  | literal
  /-- A hole that opened at `opened`, with `depth` braces still open. -/
  | expression (opened : Position) (depth : Nat)
  /-- A string in a hole, closed by `quote`; after a backslash the next token is ordinary. -/
  | quoted (opened : Position) (depth : Nat) (quote : Token) (escaped : Bool)
  deriving Repr, DecidableEq, Inhabited

/-- What has been read of a source: the finished literals and holes, the literal and the
expression being read, the place reached and what it belongs to. -/
structure Progress where
  literals : List String
  holes : List Hole
  literal : String
  expression : String
  place : Position
  context : Context
  deriving Repr, DecidableEq, Inhabited

namespace Progress

def start : Progress := ⟨[], [], "", "", .start, .literal⟩

def openHole (progress : Progress) (opened : Position) : Progress :=
  { progress with
    literals := progress.literals ++ [progress.literal]
    literal := ""
    context := .expression opened 1 }

def closeHole (progress : Progress) (opened : Position) : Progress :=
  { progress with
    holes := progress.holes ++ [⟨Text.trimString progress.expression, opened⟩]
    expression := ""
    context := .literal }

def keepLiteral (progress : Progress) (text : List Char) : Progress :=
  { progress with literal := progress.literal ++ String.ofList text }

def keepExpression (progress : Progress) (token : Token) (context : Context) : Progress :=
  { progress with
    expression := progress.expression ++ String.ofList token.chars
    context := context }

def inLiteral (progress : Progress) : Token → Progress
  | .openHole => progress.openHole progress.place
  | .escapedOpen => progress.keepLiteral ['$', '{']
  | .backslashOpen => (progress.keepLiteral ['\\']).openHole (progress.place.afterAll ['\\', '\\'])
  | token => progress.keepLiteral token.chars

def inExpression (progress : Progress) (opened : Position) (depth : Nat) : Token → Progress
  | .closeBrace =>
    if depth = 1 then progress.closeHole opened
    else progress.keepExpression .closeBrace (.expression opened (depth - 1))
  | .openBrace => progress.keepExpression .openBrace (.expression opened (depth + 1))
  | .openHole => progress.keepExpression .openHole (.expression opened (depth + 1))
  | .escapedOpen => progress.keepExpression .escapedOpen (.expression opened (depth + 1))
  | .backslashOpen => progress.keepExpression .backslashOpen (.expression opened (depth + 1))
  | .doubleQuote => progress.keepExpression .doubleQuote (.quoted opened depth .doubleQuote false)
  | .singleQuote => progress.keepExpression .singleQuote (.quoted opened depth .singleQuote false)
  | token => progress.keepExpression token (.expression opened depth)

def inQuoted (progress : Progress) (opened : Position) (depth : Nat) (quote : Token)
    (escaped : Bool) (token : Token) : Progress :=
  progress.keepExpression token <|
    if escaped then .quoted opened depth quote false
    else if token = .backslash then .quoted opened depth quote true
    else if token = quote then .expression opened depth
    else .quoted opened depth quote false

def step (progress : Progress) (token : Token) : Progress :=
  let read := match progress.context with
    | .literal => progress.inLiteral token
    | .expression opened depth => progress.inExpression opened depth token
    | .quoted opened depth quote escaped => progress.inQuoted opened depth quote escaped token
  { read with place := progress.place.afterAll token.chars }

def finish (progress : Progress) : Except Position Parts :=
  match progress.context with
  | .literal => .ok ⟨progress.literals ++ [progress.literal], progress.holes⟩
  | .expression opened _ => .error opened
  | .quoted opened _ _ _ => .error opened

end Progress

/-- The parts of a source, or the place of the hole that it leaves open. -/
def split (source : String) : Except Position Parts :=
  ((scan source.toList).foldl Progress.step .start).finish

end BlockTemplates.Source
