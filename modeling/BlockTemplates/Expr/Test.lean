import BlockTemplates.Expr.Argument
import BlockTemplates.Expr.Syntax
import BlockTemplates.Text.Case

/-! Tests: the named questions that `is` asks about a value. -/

namespace BlockTemplates.Expr

inductive Test where
  | defined
  | undefined
  | none
  | number
  | integer
  | float
  | string
  | list
  | iterable
  | table
  | bool
  | isTrue
  | isFalse
  | odd
  | even
  | divisibleBy
  | upper
  | lower
  | startingWith
  | endingWith
  | equal
  | notEqual
  | less
  | lessEqual
  | greater
  | greaterEqual
  | member
  | same
  | safe
  | filterName
  | testName
  deriving Repr, DecidableEq, Inhabited

def Test.names : List (String × Test) :=
  [("defined", .defined), ("undefined", .undefined), ("none", .none), ("number", .number),
    ("integer", .integer), ("int", .integer), ("float", .float), ("string", .string),
    ("sequence", .list), ("iterable", .iterable), ("mapping", .table), ("boolean", .bool),
    ("true", .isTrue), ("false", .isFalse), ("odd", .odd), ("even", .even),
    ("divisibleby", .divisibleBy), ("upper", .upper), ("lower", .lower),
    ("startingwith", .startingWith), ("endingwith", .endingWith),
    ("eq", .equal), ("equalto", .equal), ("==", .equal), ("ne", .notEqual), ("!=", .notEqual),
    ("lt", .less), ("lessthan", .less), ("<", .less), ("le", .lessEqual), ("<=", .lessEqual),
    ("gt", .greater), ("greaterthan", .greater), (">", .greater),
    ("ge", .greaterEqual), (">=", .greaterEqual), ("in", .member), ("sameas", .same),
    ("safe", .safe), ("escaped", .safe), ("filter", .filterName), ("test", .testName)]

def Test.ofName? (name : String) : Option Test := Test.names.lookup name

namespace Value

def isDivisible (a b : Value) : Bool :=
  match pair? false a b with
  | some (.ints m n) => n ≠ 0 && m % n == 0
  | some (.floats x y) => Decimal.remainder x y == 0.0
  | _ => false

def compares (comparison : Comparison) (a b : Value) : Answer Bool :=
  match comparison with
  | .equal => .ok (equal a b)
  | .notEqual => .ok (!equal a b)
  | .less => .ok (order a b == .lt)
  | .lessEqual => .ok (order a b != .gt)
  | .greater => .ok (order a b == .gt)
  | .greaterEqual => .ok (order a b != .lt)
  | .member => b.contains a
  | .notMember => (b.contains a).map (!·)

def isInteger : Value → Bool
  | int _ => true
  | _ => false

def isFloat : Value → Bool
  | float _ => true
  | _ => false

def isBool (b : Bool) : Value → Bool
  | bool c => b == c
  | _ => false

/-- Whether a value is text that is not escaped any more. -/
def isSafe : Value → Bool
  | string safe _ => safe
  | _ => false

def hasParity (remainder : Int) (value : Value) : Bool := value.asWhole?.any (· % 2 == remainder)

end Value

open Arguments in
def Test.take (question : Test) (filters : List String) : Arguments Bool := do
  match question with
  | defined => return !(← value).isUndefined
  | undefined => return (← value).isUndefined
  | none => return (← value).kind = .none
  | number => return (← value).kind = .number
  | integer => return (← value).isInteger
  | float => return (← value).isFloat
  | string => return (← value).kind = .string
  | list => return (← value).kind = .list
  | iterable => return (← value).walk?.isSome
  | table => return (← value).kind = .table
  | bool => return (← value).kind = .bool
  | isTrue => return (← value).isBool true
  | isFalse => return (← value).isBool false
  | odd => return (← value).hasParity 1
  | even => return (← value).hasParity 0
  | divisibleBy => return Value.isDivisible (← value) (← value)
  | upper => return (← text).toList.all Text.isUpper
  | lower => return (← text).toList.all Text.isLower
  | startingWith =>
    let whole ← text
    let head ← text
    return Text.startsWith head.toList whole.toList
  | endingWith =>
    let whole ← text
    let tail ← text
    return (Text.stripEnd? tail.toList whole.toList).isSome
  | equal => compared .equal
  | notEqual => compared .notEqual
  | less => compared .less
  | lessEqual => compared .lessEqual
  | greater => compared .greater
  | greaterEqual => compared .greaterEqual
  | member =>
    let item ← value
    let container ← value
    return (container.contains item).toOption.getD false
  | same =>
    let a ← value
    let b ← value
    return a.kind = b.kind && Value.equal a b
  | safe => return (← value).isSafe
  | filterName => return filters.contains (← text)
  | testName => return (Test.ofName? (← text)).isSome
where
  compared (comparison : Comparison) : Arguments Bool := do
    let a ← value
    let b ← value
    Value.compares comparison a b

def applyTest (filters : List String) (name : String) (arguments : List Value) : Answer Bool :=
  match Test.ofName? name with
  | none => .error .unknownTest
  | some question =>
    Arguments.answer (do
      let passed ← question.take filters
      Arguments.done
      return passed) arguments

end BlockTemplates.Expr
