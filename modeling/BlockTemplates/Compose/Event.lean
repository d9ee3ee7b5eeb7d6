import BlockTemplates.Dict

/-! What a render reports while it runs. -/

namespace BlockTemplates

inductive RenderStage where
  | directiveScan
  | flatten
  | extendResolve
  | done
  deriving Repr, DecidableEq, Inhabited

def RenderStage.name : RenderStage → String
  | directiveScan => "directive_scan"
  | flatten => "flatten"
  | extendResolve => "extend_resolve"
  | done => "done"

inductive EventLevel where
  | trace
  | debug
  deriving Repr, DecidableEq, Inhabited

def EventLevel.name : EventLevel → String
  | trace => "TRACE"
  | debug => "DEBUG"

inductive Event where
  | reached (stage : RenderStage)
  | inherits (base : String)
  /-- The block `dropped` was still open when `opened` was opened. -/
  | abandoned (dropped opened : String)
  | unterminated (block : String)
  /-- The child's content takes the place of the block. -/
  | overridden (block : String)
  deriving Repr, DecidableEq, Inhabited

namespace Event

def level : Event → EventLevel
  | reached _ => .trace
  | inherits _ => .debug
  | abandoned _ _ => .trace
  | unterminated _ => .debug
  | overridden _ => .trace

def message : Event → String
  | reached _ => "render state"
  | inherits _ => "resolving template inheritance"
  | abandoned _ _ => "block opened before the previous one was closed"
  | unterminated _ => "unterminated block discarded"
  | overridden _ => "block overridden by child"

def fields : Event → List (String × String)
  | reached stage => [("state", stage.name)]
  | inherits base => [("base", base)]
  | abandoned dropped opened => [("abandoned", dropped), ("opened", opened)]
  | unterminated block => [("block", block)]
  | overridden block => [("block", block)]

end Event

end BlockTemplates
