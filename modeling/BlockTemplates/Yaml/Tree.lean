import BlockTemplates.Yaml.Layout
import BlockTemplates.Yaml.Node

/-! The document that tokens spell. Every reader takes tokens from the front of a list; `steps`
bounds the calls of readers, which are never more than a fixed number for each token. The number of
an anchor is the number of names of anchors before it. -/

namespace BlockTemplates.Yaml

/-- The tokens that are left, the meanings of tag handles, the anchors by name, those whose nodes
are finished, and the number of parts so far. -/
structure Growing where
  tokens : List Token
  handles : List (String × String)
  names : List (String × Nat)
  anchored : List Anchored
  size : Nat
  deriving Inhabited

abbrev Reader := StateT Growing Option

namespace Reader

def peek : Reader (Option Token) := do return (← get).tokens.head?

def skip : Reader Unit := modify (fun state => { state with tokens := state.tokens.tail })

def refuse {α : Type} : Reader α := fun _ => none

def part : Reader Unit := modify (fun state => { state with size := state.size + 1 })

def nothing : Reader Node := do
  part
  return .nothing

def reference (name : String) : Reader Node := do
  match (← get).names.lookup name with
  | some number =>
    part
    return .reference number
  | none => refuse

def fullTag (handle suffix : String) : Reader String := do
  if handle = "" then return suffix
  else
    match (← get).handles.lookup handle with
    | some meaning => return meaning ++ suffix
    | none => refuse

def takeTag : Reader (Option String) := do
  match ← peek with
  | some (.tag handle suffix) =>
    skip
    return some (← fullTag handle suffix)
  | _ => return none

def takeAnchor : Reader (Option String) := do
  match ← peek with
  | some (.anchor name) =>
    skip
    return some name
  | _ => return none

def takeProperties : Reader (Option String × Option String) := do
  match ← takeAnchor with
  | some name => return (some name, ← takeTag)
  | none =>
    match ← takeTag with
    | some tag => return (← takeAnchor, some tag)
    | none => return (none, none)

def begin (name : Option String) : Reader (Option (Nat × Nat)) := do
  match name with
  | none => return none
  | some name =>
    let state ← get
    let number := state.names.length
    set { state with names := (name, number) :: state.names.filter (·.1 ≠ name) }
    return some (number, state.size)

def finish (anchor : Option (Nat × Nat)) (node : Node) : Reader Node := do
  match anchor with
  | none => return node
  | some (number, began) =>
    modify (fun state => { state with anchored := ⟨number, began, node⟩ :: state.anchored })
    return node

end Reader

def endsItem : Token → Bool
  | .blockEntry => true
  | .key => true
  | .value => true
  | .blockEnd => true
  | _ => false

def endsEntry : Token → Bool
  | .key => true
  | .value => true
  | .blockEnd => true
  | _ => false

def endsFlowKey (close : Token) (token : Token) : Bool :=
  token = .value || token = .flowEntry || token = close

def endsFlowValue (close : Token) (token : Token) : Bool := token = .flowEntry || token = close

mutual

/-- A node. Blocks may be in it when `block`, and a sequence that is as indented as its mapping
when `level`. -/
def readNode (steps : Nat) (block level : Bool) : Reader Node :=
  match steps with
  | 0 => Reader.refuse
  | steps + 1 => do
    match ← Reader.peek with
    | some (.reference name) =>
      Reader.skip
      Reader.reference name
    | _ =>
      let (name, tag) ← Reader.takeProperties
      let anchor ← Reader.begin name
      Reader.part
      let node ← readContent steps block level (name.isSome || tag.isSome) tag
      Reader.finish anchor node

/-- What stands after the anchor and the tag of a node; nothing may when there are any. -/
def readContent (steps : Nat) (block level mayBeNothing : Bool) (tag : Option String) : Reader Node :=
  match steps with
  | 0 => Reader.refuse
  | steps + 1 => do
    match ← Reader.peek, block, level with
    | some .blockEntry, _, true => return .sequence tag (← readLevelItems steps)
    | some (.text s plain), _, _ =>
      Reader.skip
      return .text (if tag = some "!" then none else tag) plain s
    | some .flowSequence, _, _ =>
      Reader.skip
      return .sequence tag (← readFlowItems steps true)
    | some .flowMapping, _, _ =>
      Reader.skip
      return .mapping tag (← readFlowEntries steps true)
    | some .blockSequence, true, _ =>
      Reader.skip
      return .sequence tag (← readItems steps)
    | some .blockMapping, true, _ =>
      Reader.skip
      return .mapping tag (← readEntries steps)
    | _, _, _ => if mayBeNothing then return .text tag true "" else Reader.refuse

def readItems (steps : Nat) : Reader (List Node) :=
  match steps with
  | 0 => Reader.refuse
  | steps + 1 => do
    match ← Reader.peek with
    | some .blockEntry =>
      Reader.skip
      let next ← Reader.peek
      let item ←
        if next = some .blockEntry ∨ next = some .blockEnd then Reader.nothing
        else readNode steps true false
      return item :: (← readItems steps)
    | some .blockEnd =>
      Reader.skip
      Reader.part
      return []
    | _ => Reader.refuse

def readLevelItems (steps : Nat) : Reader (List Node) :=
  match steps with
  | 0 => Reader.refuse
  | steps + 1 => do
    match ← Reader.peek with
    | some .blockEntry =>
      Reader.skip
      let item ← if (← Reader.peek).any endsItem then Reader.nothing else readNode steps true false
      return item :: (← readLevelItems steps)
    | _ =>
      Reader.part
      return []

def readEntries (steps : Nat) : Reader (List (Node × Node)) :=
  match steps with
  | 0 => Reader.refuse
  | steps + 1 => do
    match ← Reader.peek with
    | some .key =>
      Reader.skip
      let key ← if (← Reader.peek).any endsEntry then Reader.nothing else readNode steps true true
      let value ← readValue steps
      return (key, value) :: (← readEntries steps)
    | some .blockEnd =>
      Reader.skip
      Reader.part
      return []
    | _ => Reader.refuse

def readValue (steps : Nat) : Reader Node :=
  match steps with
  | 0 => Reader.refuse
  | steps + 1 => do
    match ← Reader.peek with
    | some .value =>
      Reader.skip
      if (← Reader.peek).any endsEntry then Reader.nothing else readNode steps true true
    | _ => Reader.nothing

def readFlowItems (steps : Nat) (first : Bool) : Reader (List Node) :=
  match steps with
  | 0 => Reader.refuse
  | steps + 1 => do
    if (← Reader.peek) = some .flowSequenceEnd then
      Reader.skip
      Reader.part
      return []
    else
      if !first then
        if (← Reader.peek) = some .flowEntry then Reader.skip else Reader.refuse
      match ← Reader.peek with
      | some .key =>
        Reader.skip
        Reader.part
        let pair ← readPair steps
        Reader.part
        return .mapping none [pair] :: (← readFlowItems steps false)
      | some .flowSequenceEnd =>
        Reader.skip
        Reader.part
        return []
      | _ =>
        let item ← readNode steps false false
        return item :: (← readFlowItems steps false)

/-- The only entry of a mapping that is an item of a sequence in brackets. Where its key is
missing, the token after it is passed over. -/
def readPair (steps : Nat) : Reader (Node × Node) :=
  match steps with
  | 0 => Reader.refuse
  | steps + 1 => do
    let key ←
      if (← Reader.peek).any (endsFlowKey .flowSequenceEnd) then
        Reader.skip
        Reader.nothing
      else readNode steps false false
    return (key, ← readFlowValue steps .flowSequenceEnd)

def readFlowValue (steps : Nat) (close : Token) : Reader Node :=
  match steps with
  | 0 => Reader.refuse
  | steps + 1 => do
    match ← Reader.peek with
    | some .value =>
      Reader.skip
      if (← Reader.peek).any (endsFlowValue close) then Reader.nothing else readNode steps false false
    | _ => Reader.nothing

def readFlowEntries (steps : Nat) (first : Bool) : Reader (List (Node × Node)) :=
  match steps with
  | 0 => Reader.refuse
  | steps + 1 => do
    if (← Reader.peek) = some .flowMappingEnd then
      Reader.skip
      Reader.part
      return []
    else
      if !first then
        if (← Reader.peek) = some .flowEntry then Reader.skip else Reader.refuse
      match ← Reader.peek with
      | some .key =>
        Reader.skip
        let key ←
          if (← Reader.peek).any (endsFlowKey .flowMappingEnd) then Reader.nothing
          else readNode steps false false
        let value ← readFlowValue steps .flowMappingEnd
        return (key, value) :: (← readFlowEntries steps false)
      | some .flowMappingEnd =>
        Reader.skip
        Reader.part
        return []
      | _ =>
        let key ← readNode steps false false
        let value ← Reader.nothing
        return (key, value) :: (← readFlowEntries steps false)

end

def isOutside : Token → Bool
  | .directive _ => true
  | .documentStart => true
  | .documentEnd => true
  | _ => false

def standardHandles : List (String × String) := [("!", "!"), ("!!", "tag:yaml.org,2002:")]

/-- The meanings of tag handles that the given directives lay down: a version is one that is
understood, and nothing is laid down twice. -/
def handlesOf? (directives : List Directive) : Option (List (String × String)) :=
  let versions := directives.filterMap (fun d =>
    match d with | .version major minor => some (major, minor) | .handle _ _ => none)
  let handles := directives.filterMap (fun d =>
    match d with | .version _ _ => none | .handle name meaning => some (name, meaning))
  if versions.length ≤ 1 ∧ versions.all (fun v => v = (1, 1) || v = (1, 2)) ∧ (handles.map Prod.fst).Nodup then
    some (handles ++ standardHandles)
  else none

def takeDirectives : List Token → List Directive × List Token
  | .directive d :: rest =>
    let (directives, rest) := takeDirectives rest
    (d :: directives, rest)
  | rest => ([], rest)

/-- The document that tokens spell after the meanings of handles, of which no tokens but ends of
documents are left over. -/
def documentFrom? (handles : List (String × String)) (tokens : List Token) (mayBeEmpty : Bool) :
    Option Document := do
  let reader : Reader Node :=
    if mayBeEmpty && tokens.head?.all isOutside then Reader.nothing
    else readNode (8 * tokens.length + 8) true false
  let (root, state) ← reader.run ⟨tokens, handles, [], [], 0⟩
  if state.tokens.all (· = .documentEnd) then some ⟨root, state.anchored, state.size⟩ else none

def documentOf? (tokens : List Token) : Option Document :=
  match takeDirectives tokens with
  | (directives, .documentStart :: rest) => do documentFrom? (← handlesOf? directives) rest true
  | ([], []) => some ⟨.nothing, [], 1⟩
  | ([], tokens) => documentFrom? standardHandles tokens false
  | _ => none

def document? (text : String) : Option Document := (tokens? text).bind documentOf?

end BlockTemplates.Yaml
