import BlockTemplates.Expr.Arithmetic
import BlockTemplates.Expr.Syntax
import BlockTemplates.Expr.Token

/-! The expression that tokens spell. Every reader takes tokens from the front of a list; `room` is
how deep expressions may still nest, and `steps` bounds the calls of readers, which are never more
than a fixed number for each token. -/

namespace BlockTemplates.Expr

abbrev Reader := StateT (List Token) Answer

namespace Reader

def peek : Reader (Option Token) := fun tokens =>
  match tokens.head? with
  | some (.bad error) => .error error
  | next => .ok (next, tokens)

def skip : Reader Unit := modify List.tail

def refuse {α : Type} : Reader α := throw .syntaxError

def accept (token : Token) : Reader Bool := do
  if (← peek) == some token then
    skip
    return true
  else return false

def expect (token : Token) : Reader Unit := do
  if ← accept token then return () else refuse

def take : Reader Token := do
  match ← peek with
  | some token =>
    skip
    return token
  | none => refuse

def takeName : Reader String := do
  match ← take with
  | .name s => return s
  | _ => refuse

end Reader

/-- The levels at which binary operators bind, from loose to tight. -/
inductive Level where
  | or
  | and
  | sum
  | concat
  | product
  | power
  deriving Repr, DecidableEq, Inhabited

def Level.operator? : Level → Token → Option (Expr → Expr → Expr)
  | or, .name "or" => some .either
  | and, .name "and" => some .both
  | sum, .mark .plus => some (.binary .add)
  | sum, .mark .minus => some (.binary .sub)
  | concat, .mark .tilde => some (.binary .concat)
  | product, .mark .times => some (.binary .mul)
  | product, .mark .slash => some (.binary .div)
  | product, .mark .doubleSlash => some (.binary .floorDiv)
  | product, .mark .percent => some (.binary .rem)
  | power, .mark .power => some (.binary .pow)
  | _, _ => none

def comparison? : Token → Option Comparison
  | .mark .equal => some .equal
  | .mark .notEqual => some .notEqual
  | .mark .less => some .less
  | .mark .lessEqual => some .lessEqual
  | .mark .greater => some .greater
  | .mark .greaterEqual => some .greaterEqual
  | .name "in" => some .member
  | .name "not" => some .notMember
  | _ => none

def takeComparison? : Reader (Option Comparison) := do
  match (← Reader.peek).bind comparison? with
  | none => return none
  | some comparison =>
    Reader.skip
    if comparison = .notMember then Reader.expect (.name "in")
    return some comparison

def takeTexts (start : String) : Reader String := fun tokens =>
  match tokens with
  | .text s :: rest => takeTexts (start ++ s) rest
  | .bad error :: _ => .error error
  | rest => .ok (start, rest)

/-- Whether an argument of a test may start with a token where there are no parentheses. -/
def startsArgument : Token → Bool
  | .name s => s ≠ "and" && s ≠ "or" && s ≠ "else" && s ≠ "is"
  | .text _ => true
  | .int _ => true
  | .float _ => true
  | .mark .plus => true
  | .mark .minus => true
  | .mark .openBracket => true
  | .mark .openBrace => true
  | _ => false

def Passing.isNamed : Passing → Bool
  | named _ => true
  | spreadNamed => true
  | _ => false

def maxArguments : Nat := 2000

mutual

def readExpr (steps room : Nat) : Reader Expr :=
  match steps, room with
  | steps + 1, room + 1 => do readAlternatives steps room (← readLevel steps room .or)
  | _, _ => Reader.refuse

def readAlternatives (steps room : Nat) (e : Expr) : Reader Expr :=
  match steps with
  | 0 => Reader.refuse
  | steps + 1 => do
    if ← Reader.accept (.name "if") then
      let condition ← readLevel steps room .or
      if ← Reader.accept (.name "else") then
        let no ← readAlternatives steps room (← readLevel steps room .or)
        readAlternatives steps room (.conditional condition e no)
      else readAlternatives steps room (.conditional condition e (.constant .undefined))
    else return e

def readLevel (steps room : Nat) (level : Level) : Reader Expr :=
  match steps with
  | 0 => Reader.refuse
  | steps + 1 => do readChain steps room level (← readOperand steps room level)

def readChain (steps room : Nat) (level : Level) (left : Expr) : Reader Expr :=
  match steps with
  | 0 => Reader.refuse
  | steps + 1 => do
    match (← Reader.peek).bind level.operator? with
    | none => return left
    | some operator =>
      Reader.skip
      let right ← readOperand steps room level
      readChain steps room level (operator left right)

def readOperand (steps room : Nat) (level : Level) : Reader Expr :=
  match steps with
  | 0 => Reader.refuse
  | steps + 1 =>
    match level with
    | .or => readLevel steps room .and
    | .and => readNegation steps room
    | .sum => readLevel steps room .concat
    | .concat => readLevel steps room .product
    | .product => readLevel steps room .power
    | .power => do readModifiers steps room (← readSigned steps room)

def readNegation (steps room : Nat) : Reader Expr :=
  match steps with
  | 0 => Reader.refuse
  | steps + 1 => do
    if ← Reader.accept (.name "not") then
      match room with
      | 0 => Reader.refuse
      | room + 1 => return .not (← readNegation steps room)
    else
      let first ← readLevel steps room .sum
      match ← readComparisons steps room with
      | [] => return first
      | rest => return .compared first rest

def readComparisons (steps room : Nat) : Reader (List (Comparison × Expr)) :=
  match steps with
  | 0 => Reader.refuse
  | steps + 1 => do
    match ← takeComparison? with
    | none => return []
    | some comparison =>
      let operand ← readLevel steps room .sum
      return (comparison, operand) :: (← readComparisons steps room)

def readSigned (steps room : Nat) : Reader Expr :=
  match steps with
  | 0 => Reader.refuse
  | steps + 1 => do
    if ← Reader.accept (.mark .minus) then
      match room with
      | 0 => Reader.refuse
      | room + 1 => return .negate (← readSigned steps room)
    else readAttached steps room (← readPrimary steps room)

def readPrimary (steps room : Nat) : Reader Expr :=
  match steps with
  | 0 => Reader.refuse
  | steps + 1 => do
    match ← Reader.take with
    | .name "true" => return .constant (.bool true)
    | .name "True" => return .constant (.bool true)
    | .name "false" => return .constant (.bool false)
    | .name "False" => return .constant (.bool false)
    | .name "none" => return .constant .none
    | .name "None" => return .constant .none
    | .name s => return .name s
    | .text s => return .constant (.text (← takeTexts s))
    | .int n => return .constant (.int n)
    | .float x => return .constant (.float x)
    | .mark .openParen => readParenthesis steps room
    | .mark .openBracket =>
      if ← Reader.accept (.mark .closeBracket) then return .list []
      else return .list (← readItems steps room (.mark .closeBracket))
    | .mark .openBrace =>
      if ← Reader.accept (.mark .closeBrace) then return .table []
      else return .table (← readEntries steps room)
    | _ => Reader.refuse

/-- What follows an opening parenthesis: an expression, or a list if there is a comma or nothing. -/
def readParenthesis (steps room : Nat) : Reader Expr :=
  match steps with
  | 0 => Reader.refuse
  | steps + 1 => do
    if ← Reader.accept (.mark .closeParen) then return .list []
    else
      let first ← readExpr steps room
      if ← Reader.accept (.mark .comma) then
        if ← Reader.accept (.mark .closeParen) then return .list [first]
        else return .list (first :: (← readItems steps room (.mark .closeParen)))
      else
        Reader.expect (.mark .closeParen)
        return first

def readItems (steps room : Nat) (closing : Token) : Reader (List Expr) :=
  match steps with
  | 0 => Reader.refuse
  | steps + 1 => do
    let item ← readExpr steps room
    if ← Reader.accept closing then return [item]
    else
      Reader.expect (.mark .comma)
      if ← Reader.accept closing then return [item]
      else return item :: (← readItems steps room closing)

def readEntries (steps room : Nat) : Reader (List (Expr × Expr)) :=
  match steps with
  | 0 => Reader.refuse
  | steps + 1 => do
    let key ← readExpr steps room
    Reader.expect (.mark .colon)
    let value ← readExpr steps room
    if ← Reader.accept (.mark .closeBrace) then return [(key, value)]
    else
      Reader.expect (.mark .comma)
      if ← Reader.accept (.mark .closeBrace) then return [(key, value)]
      else return (key, value) :: (← readEntries steps room)

def readAttached (steps room : Nat) (e : Expr) : Reader Expr :=
  match steps with
  | 0 => Reader.refuse
  | steps + 1 => do
    if ← Reader.accept (.mark .dot) then
      match ← Reader.take with
      | .name s => readAttached steps room (.field e s)
      | .int n => readAttached steps room (.item e (.constant (.int n)))
      | _ => Reader.refuse
    else if ← Reader.accept (.mark .openBracket) then
      readAttached steps room (← readSubscript steps room e)
    else if ← Reader.accept (.mark .openParen) then
      readAttached steps room (.call e (← readArguments steps room false 0))
    else return e

def readSubscript (steps room : Nat) (e : Expr) : Reader Expr :=
  match steps with
  | 0 => Reader.refuse
  | steps + 1 => do
    let start ← readBound steps room
    if ← Reader.accept (.mark .colon) then
      let stop ← readBound steps room
      let step ← do
        if ← Reader.accept (.mark .colon) then
          if (← Reader.peek) == some (.mark .closeBracket) then pure none
          else some <$> readExpr steps room
        else pure none
      Reader.expect (.mark .closeBracket)
      let given (bound : Option Expr) : Expr := bound.getD (.constant .none)
      return .slice e (given start) (given stop) (given step)
    else
      Reader.expect (.mark .closeBracket)
      match start with
      | some key => return .item e key
      | none => Reader.refuse

def readBound (steps room : Nat) : Reader (Option Expr) :=
  match steps with
  | 0 => Reader.refuse
  | steps + 1 => do
    let next ← Reader.peek
    if next == some (.mark .colon) || next == some (.mark .closeBracket) then return none
    else some <$> readExpr steps room

/-- The arguments after an opening parenthesis, of which `count` have been read; after a named one
no positional one may follow. -/
def readArguments (steps room : Nat) (named : Bool) (count : Nat) : Reader (List (Passing × Expr)) :=
  match steps with
  | 0 => Reader.refuse
  | steps + 1 => do
    if ← Reader.accept (.mark .closeParen) then
      if maxArguments < count then Reader.refuse else return []
    else
      if count ≠ 0 then Reader.expect (.mark .comma)
      if count ≠ 0 && (← Reader.accept (.mark .closeParen)) then
        if maxArguments < count then Reader.refuse else return []
      else
        let argument ← readArgument steps room
        if named && argument.1 = .positional then Reader.refuse
        else
          return argument :: (← readArguments steps room (named || argument.1.isNamed) (count + 1))

def readArgument (steps room : Nat) : Reader (Passing × Expr) :=
  match steps with
  | 0 => Reader.refuse
  | steps + 1 => do
    if ← Reader.accept (.mark .power) then return (.spreadNamed, ← readExpr steps room)
    else if ← Reader.accept (.mark .times) then return (.spread, ← readExpr steps room)
    else
      match ← readExpr steps room with
      | .name s =>
        if ← Reader.accept (.mark .assign) then return (.named s, ← readLevel steps room .or)
        else return (.positional, .name s)
      | e => return (.positional, e)

def readModifiers (steps room : Nat) (e : Expr) : Reader Expr :=
  match steps with
  | 0 => Reader.refuse
  | steps + 1 => do
    if ← Reader.accept (.mark .pipe) then
      let name ← Reader.takeName
      if ← Reader.accept (.mark .openParen) then
        readModifiers steps room (.filter name e (← readArguments steps room false 0))
      else readModifiers steps room (.filter name e [])
    else if ← Reader.accept (.name "is") then
      let negated ← Reader.accept (.name "not")
      let name ← Reader.takeName
      let tested := Expr.test name e (← readTestArguments steps room)
      readModifiers steps room (if negated then .not tested else tested)
    else return e

/-- The arguments of a test: any number in parentheses, or at most one without. -/
def readTestArguments (steps room : Nat) : Reader (List (Passing × Expr)) :=
  match steps with
  | 0 => Reader.refuse
  | steps + 1 => do
    if ← Reader.accept (.mark .openParen) then readArguments steps room false 0
    else if (← Reader.peek).any startsArgument then
      return [(.positional, ← readSigned steps room)]
    else return []

end

def maxNesting : Nat := 150

def ofTokens (tokens : List Token) : Answer Expr :=
  match readExpr (32 * (tokens.length + 2)) maxNesting tokens with
  | .error error => .error error
  | .ok (e, []) => .ok e
  | .ok (_, .bad error :: _) => .error error
  | .ok (_, _ :: _) => .error .syntaxError

def compile (source : String) : Answer Expr := ofTokens (scan source.toList)

end BlockTemplates.Expr
