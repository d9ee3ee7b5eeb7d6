import BlockTemplates.Compose.Directive

/-! Segments of a produced page: literal text is static, evaluated text is dynamic. Sequences are
built so that static and dynamic segments alternate and both ends are static. -/

namespace BlockTemplates

inductive SegmentKind where
  | static
  | dynamic
  deriving Repr, DecidableEq, Inhabited

structure Segment where
  kind : SegmentKind
  value : String
  deriving Repr, DecidableEq, Inhabited

namespace Segment

def static (value : String) : Segment := ⟨.static, value⟩

def dynamic (value : Option String) : Segment := ⟨.dynamic, value.getD ""⟩

def isStatic (segment : Segment) : Bool := segment.kind = .static

def isDynamic (segment : Segment) : Bool := segment.kind = .dynamic

/-- The marker that a segment spells. Literal text never does. -/
def directive? (segment : Segment) : Option Directive :=
  match segment.kind with
  | .static => none
  | .dynamic => Directive.recognize? segment.value

def replace (segment : Segment) (value : String) : Segment := { segment with value }

def zero (segment : Segment) : Segment := segment.replace ""

end Segment

abbrev SegmentSequence := List Segment

namespace SegmentSequence

/-- The sequence with literal text after it, joined to a static segment at its end. -/
def appendLiteral : SegmentSequence → String → SegmentSequence
  | [], text => [.static text]
  | [last], text =>
    if last.isStatic then [last.replace (last.value ++ text)] else [last, .static text]
  | first :: second :: rest, text => first :: appendLiteral (second :: rest) text

/-- The sequence with an empty static segment after it unless it ends with a static one. -/
def closeStatic : SegmentSequence → SegmentSequence
  | [] => [.static ""]
  | [last] => if last.isStatic then [last] else [last, .static ""]
  | first :: second :: rest => first :: closeStatic (second :: rest)

def appendValue (sequence : SegmentSequence) (value : Option String) : SegmentSequence :=
  closeStatic sequence ++ [.dynamic value]

inductive Part where
  | literal (text : String)
  | value (value : Option String)
  deriving Repr, DecidableEq, Inhabited

def append (sequence : SegmentSequence) : Part → SegmentSequence
  | .literal text => appendLiteral sequence text
  | .value value => appendValue sequence value

def build (parts : List Part) : SegmentSequence := closeStatic (parts.foldl append [])

/-- Literals and values taken in turn until both are used up. -/
def interleave : List String → List (Option String) → List Part
  | [], values => values.map .value
  | literals, [] => literals.map .literal
  | literal :: literals, value :: values => .literal literal :: .value value :: interleave literals values

def ofParts (literals : List String) (values : List (Option String)) : SegmentSequence :=
  build (interleave literals values)

def dynamicCount (sequence : SegmentSequence) : Nat := (sequence.filter Segment.isDynamic).length

def flatten (sequence : SegmentSequence) : String := String.join (sequence.map Segment.value)

@[simp]
theorem flatten_nil : flatten [] = "" := String.join_nil

@[simp]
theorem flatten_cons (segment : Segment) (rest : SegmentSequence) :
    flatten (segment :: rest) = segment.value ++ flatten rest := String.join_cons

@[simp]
theorem flatten_append (first second : SegmentSequence) :
    flatten (first ++ second) = flatten first ++ flatten second := by
  simp [flatten, String.join_append]

end SegmentSequence

end BlockTemplates
