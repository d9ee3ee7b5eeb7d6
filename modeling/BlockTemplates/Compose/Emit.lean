/-! Sinks that collect emitted text. Several handles may share one buffer: what is emitted to one
of them shows in all of them. -/

namespace BlockTemplates

abbrev Sink := Nat

/-- Buffers with the texts emitted to them, and for each handle the buffer it shares. -/
structure Sinks where
  buffers : List (List String)
  handles : List Nat
  deriving Repr, DecidableEq, Inhabited

namespace Sinks

def single : Sinks := ⟨[[]], [0]⟩

def emit (sinks : Sinks) (sink : Sink) (text : String) : Sinks :=
  match sinks.handles[sink]? with
  | none => sinks
  | some buffer => { sinks with buffers := sinks.buffers.modify buffer (· ++ [text]) }

def clone (sinks : Sinks) (sink : Sink) : Sinks :=
  match sinks.handles[sink]? with
  | none => sinks
  | some buffer => { sinks with handles := sinks.handles ++ [buffer] }

def new (sinks : Sinks) : Sinks :=
  ⟨sinks.buffers ++ [[]], sinks.handles ++ [sinks.buffers.length]⟩

def contents (sinks : Sinks) (sink : Sink) : String :=
  String.join ((sinks.handles[sink]?.bind (sinks.buffers[·]?)).getD [])

def allContents (sinks : Sinks) : List String :=
  (List.range sinks.handles.length).map sinks.contents

end Sinks

def forEach {α : Type} (items : List α) (text : α → String) : String := String.join (items.map text)

/-- Everything that a computation emits, followed by the text that it returns, if it returns
text. -/
def execute (emitted : List String) (returned : Option String) : String :=
  String.join (emitted ++ returned.toList)

end BlockTemplates
