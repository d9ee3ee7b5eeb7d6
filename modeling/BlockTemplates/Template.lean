import BlockTemplates.Compose.Directive
import BlockTemplates.Compose.Segment
import BlockTemplates.Expr.Eval
import BlockTemplates.Failure
import BlockTemplates.Minify
import BlockTemplates.Source.Quoted

/-! Templates: the literal text of a page and the expressions between its pieces. -/

namespace BlockTemplates

/-- A page split into literals and the expressions between them. -/
structure Template where
  literals : List String
  expressions : List String
  deriving Repr, DecidableEq, Inhabited

namespace Template

/-- The template that the source of a page spells. Its expressions are not looked into. -/
def ofSource (name source : String) (minified : Bool) : Result Template :=
  match Source.split source with
  | .error opened => .error (.templateSyntax name opened)
  | .ok parts =>
    .ok ⟨if minified then minify parts.literals else parts.literals, parts.holes.map Source.Hole.source⟩

def baseOf? (expression : String) : Option String :=
  ((Source.unquote? expression).bind Directive.recognize?).bind Directive.extendTarget?

def declaredBase? (template : Template) : Option String := template.expressions.findSome? baseOf?

def checkExpression (name expression : String) : Result Unit :=
  match Expr.compile expression with
  | .ok _ => .ok ()
  | .error error => .error (.expression name error)

/-- A template that can be rendered: it has one literal more than expressions, and each of these
can be read. -/
def validate (name : String) (template : Template) : Result Unit :=
  if template.literals.length ≠ template.expressions.length + 1 then
    .error (.bundle (.chunkCount name template.literals.length template.expressions.length))
  else template.expressions.forM (checkExpression name)

def expressionText (environment : Expr.Environment) (name : String) (data : Expr.Value)
    (expression : String) : Result (Option String) :=
  match Expr.evaluate environment data expression with
  | .ok value => .ok value.pageText?
  | .error error => .error (.expression name error)

def parts (text : String → Result (Option String)) :
    List String → List String → Result (List SegmentSequence.Part)
  | [], _ => .ok []
  | literal :: literals, [] => do return .literal literal :: (← parts text literals [])
  | literal :: literals, expression :: expressions => do
    let value ← text expression
    return .literal literal :: .value value :: (← parts text literals expressions)

def produce (environment : Expr.Environment) (name : String) (template : Template)
    (data : Expr.Value) : Result SegmentSequence := do
  let produced ← parts (expressionText environment name data) template.literals template.expressions
  return SegmentSequence.build produced

end Template

end BlockTemplates
