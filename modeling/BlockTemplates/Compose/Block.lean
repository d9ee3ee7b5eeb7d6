import BlockTemplates.Compose.Event
import BlockTemplates.Compose.Segment

/-! Named blocks. A child page gives blocks to its base: `extractBlocks` collects them and
`replaceBlocks` puts them into the base. Blocks do not nest: opening a block drops the one that is
still open, and a block that is never closed is not collected. -/

namespace BlockTemplates

abbrev BlockMap := Dict String

structure OpenBlock where
  name : String
  content : String
  deriving Repr, DecidableEq, Inhabited

/-- What the collection of blocks answers: the sequence without its block markers, the collected
blocks and the reports. -/
structure Extraction where
  sequence : SegmentSequence
  blocks : BlockMap
  events : List Event

namespace Extraction

def keep (segment : Segment) (rest : Extraction) : Extraction :=
  { rest with sequence := segment :: rest.sequence }

def report (events : List Event) (rest : Extraction) : Extraction :=
  { rest with events := events ++ rest.events }

end Extraction

def OpenBlock.collect (text : String) (opened : Option OpenBlock) : Option OpenBlock :=
  opened.map (fun block => { block with content := block.content ++ text })

def OpenBlock.commit (blocks : BlockMap) (opened : Option OpenBlock) : BlockMap :=
  match opened with
  | none => blocks
  | some block => blocks.insert block.name block.content

def OpenBlock.abandon (name : String) (opened : Option OpenBlock) : List Event :=
  match opened with
  | none => []
  | some block => [.abandoned block.name name]

/-- The collection of blocks from the rest of a page, after the blocks collected and the block
left open by what came before. -/
def extractFrom (blocks : BlockMap) (opened : Option OpenBlock) : SegmentSequence → Extraction
  | [] => ⟨[], blocks, (opened.map (fun block => Event.unterminated block.name)).toList⟩
  | segment :: rest =>
    match segment.directive? with
    | some .blockEnd =>
      (extractFrom (OpenBlock.commit blocks opened) none rest).keep segment.zero
    | some (.blockStart name) =>
      ((extractFrom blocks (some ⟨name, ""⟩) rest).keep segment.zero).report (OpenBlock.abandon name opened)
    | _ => (extractFrom blocks (OpenBlock.collect segment.value opened) rest).keep segment

def extractBlocks (sequence : SegmentSequence) : Extraction := extractFrom .empty none sequence

structure Replacement where
  sequence : SegmentSequence
  events : List Event
  deriving Repr, DecidableEq, Inhabited

namespace Replacement

def keep (segment : Segment) (rest : Replacement) : Replacement :=
  { rest with sequence := segment :: rest.sequence }

end Replacement

/-- The replacement of blocks in the rest of a page. While `suppressing`, everything up to the
end of the overridden block is erased. -/
def replaceFrom (blocks : BlockMap) (suppressing : Bool) : SegmentSequence → Replacement
  | [] => ⟨[], []⟩
  | segment :: rest =>
    if suppressing then
      (replaceFrom blocks (segment.directive? ≠ some .blockEnd) rest).keep segment.zero
    else
      match segment.directive? with
      | some (.blockStart name) =>
        match blocks.get? name with
        | some content =>
          let replaced := (replaceFrom blocks true rest).keep (segment.replace content)
          { replaced with events := .overridden name :: replaced.events }
        | none => (replaceFrom blocks false rest).keep segment.zero
      | some .blockEnd => (replaceFrom blocks false rest).keep segment.zero
      | _ => (replaceFrom blocks false rest).keep segment

/-- The base page with the given blocks in place of its own. A block without an override keeps
its own content. -/
def replaceBlocks (blocks : BlockMap) (sequence : SegmentSequence) : Replacement :=
  replaceFrom blocks false sequence

def stripBlockMarkers (sequence : SegmentSequence) : SegmentSequence :=
  sequence.map fun segment =>
    if segment.directive?.any Directive.isBlockMarker then segment.zero else segment

def extendTarget? (sequence : SegmentSequence) : Option String :=
  sequence.findSome? (fun segment => segment.directive?.bind Directive.extendTarget?)

end BlockTemplates
