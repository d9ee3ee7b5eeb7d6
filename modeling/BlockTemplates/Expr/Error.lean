/-! Why an expression has no value. -/

namespace BlockTemplates.Expr

inductive Error where
  | syntaxError
  | badStringEscape
  | unknownFunction
  | unknownFilter
  | unknownTest
  | unknownMethod
  | unknownBlock
  | missingArgument
  | tooManyArguments
  | invalidOperation
  | undefinedValue
  deriving Repr, DecidableEq, Inhabited

def Error.reason : Error → String
  | syntaxError => "syntax error"
  | badStringEscape => "bad string escape"
  | unknownFunction => "unknown function"
  | unknownFilter => "unknown filter"
  | unknownTest => "unknown test"
  | unknownMethod => "unknown method"
  | unknownBlock => "unknown block"
  | missingArgument => "missing argument"
  | tooManyArguments => "too many arguments"
  | invalidOperation => "invalid operation"
  | undefinedValue => "undefined value"

end BlockTemplates.Expr
