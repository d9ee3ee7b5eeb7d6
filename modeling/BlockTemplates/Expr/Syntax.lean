import BlockTemplates.Expr.Value

/-! Expressions as trees. -/

namespace BlockTemplates

namespace Expr

inductive Operator where
  | add
  | sub
  | concat
  | mul
  | div
  | floorDiv
  | rem
  | pow
  deriving Repr, DecidableEq, Inhabited

inductive Comparison where
  | equal
  | notEqual
  | less
  | lessEqual
  | greater
  | greaterEqual
  | member
  | notMember
  deriving Repr, DecidableEq, Inhabited

inductive Passing where
  | positional
  | named (name : String)
  /-- The items of the argument are passed in its place. -/
  | spread
  /-- The entries of the argument are passed as named arguments. -/
  | spreadNamed
  deriving Repr, DecidableEq, Inhabited

end Expr

inductive Expr where
  | constant (value : Expr.Value)
  | name (name : String)
  | list (items : List Expr)
  | table (entries : List (Expr × Expr))
  | negate (operand : Expr)
  | not (operand : Expr)
  | binary (operator : Expr.Operator) (left right : Expr)
  | both (left right : Expr)
  | either (left right : Expr)
  /-- A chain of comparisons, each of one operand with the next. -/
  | compared (first : Expr) (rest : List (Expr.Comparison × Expr))
  | conditional (condition yes no : Expr)
  | field (container : Expr) (name : String)
  | item (container key : Expr)
  | slice (container start stop step : Expr)
  | call (target : Expr) (arguments : List (Expr.Passing × Expr))
  | filter (name : String) (operand : Expr) (arguments : List (Expr.Passing × Expr))
  | test (name : String) (operand : Expr) (arguments : List (Expr.Passing × Expr))
  deriving Repr, Inhabited

end BlockTemplates
