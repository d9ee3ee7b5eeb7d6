/-! What a YAML document consists of. Anchors are numbered; a reference stands for the node that has
its number. -/

namespace BlockTemplates.Yaml

inductive Node where
  | text (tag : Option String) (plain : Bool) (s : String)
  | sequence (tag : Option String) (items : List Node)
  | mapping (tag : Option String) (entries : List (Node × Node))
  | reference (number : Nat)
  deriving Repr, BEq, Inhabited

def Node.nothing : Node := .text none true ""

/-- An anchor: its number, when its node has begun, and the node. -/
structure Anchored where
  number : Nat
  began : Nat
  node : Node
  deriving Repr, Inhabited

/-- A document: its root, what its references stand for, and how many parts it has; a text or a reference
is one part, and so is each end of a sequence or a mapping. -/
structure Document where
  root : Node
  anchored : List Anchored
  size : Nat
  deriving Repr, Inhabited

def Anchored.later (a b : Anchored) : Anchored := if a.began < b.began then b else a

/-- The node that a number stands for: the latest one that has it. -/
def Document.node? (document : Document) (number : Nat) : Option Node :=
  match document.anchored.filter (·.number = number) with
  | [] => none
  | first :: rest => some (rest.foldl Anchored.later first).node

end BlockTemplates.Yaml
