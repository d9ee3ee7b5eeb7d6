import BlockTemplates.Proofs.Compose.Blocks
import BlockTemplates.Proofs.Dict

/-! What becomes of the blocks that a page starts. The next marker of a block after the start decides
it: an end marker commits the block, another start abandons it, and a block with no marker after it is
never closed. Main statement: `blockStarts_accounted`. -/

namespace BlockTemplates

open SegmentSequence (flatten)

def Segment.boundary? (segment : Segment) : Option Directive :=
  segment.directive?.filter Directive.isBlockMarker

def blockMarkers (page : SegmentSequence) : List Directive := page.filterMap Segment.boundary?

/-- What becomes of a block that a page starts. -/
inductive Fate where
  | committed (name content : String)
  | abandoned (name opened : String)
  | unterminated (name : String)
  deriving Repr, DecidableEq

namespace Fate

def name : Fate → String
  | committed name _ => name
  | abandoned name _ => name
  | unterminated name => name

def entry? : Fate → Option (String × String)
  | committed name content => some (name, content)
  | _ => none

def abandonment? : Fate → Option Event
  | abandoned name opened => some (.abandoned name opened)
  | _ => none

def discard? : Fate → Option Event
  | unterminated name => some (.unterminated name)
  | _ => none

def report? : Fate → Option Event
  | committed _ _ => none
  | abandoned name opened => some (.abandoned name opened)
  | unterminated name => some (.unterminated name)

/-- What becomes of a block whose start stands before `after`. -/
def ofStart (name : String) (after : SegmentSequence) : Fate :=
  match (blockMarkers after).head? with
  | some .blockEnd => committed name (flatten (after.takeWhile fun segment => ¬ segment.Bounds))
  | some (.blockStart opened) => abandoned name opened
  | _ => unterminated name

end Fate

def firstFate? : SegmentSequence → Option Fate
  | [] => none
  | segment :: after => segment.opened?.map (Fate.ofStart · after)

/-- What becomes of the blocks that a page starts, in the order of their starts. -/
def fates (page : SegmentSequence) : List Fate := page.tails.filterMap firstFate?

/-- The report on the last marker of a page when that is a start. -/
def lastDiscard? (page : SegmentSequence) : Option Event :=
  match (blockMarkers page).getLast? with
  | some (.blockStart name) => some (.unterminated name)
  | _ => none

section Markers

variable {segment : Segment} {opened : String} (name : String) (rest : SegmentSequence)

theorem blockMarkers_end (closes : segment.Spells .blockEnd) :
    blockMarkers (segment :: rest) = .blockEnd :: blockMarkers rest := by
  apply List.filterMap_cons_some
  simp [Segment.boundary?, Segment.directive?_eq_some_iff.mpr closes, Directive.isBlockMarker]

theorem blockMarkers_start (opens : segment.Spells (.blockStart opened)) :
    blockMarkers (segment :: rest) = .blockStart opened :: blockMarkers rest := by
  apply List.filterMap_cons_some
  simp [Segment.boundary?, Segment.directive?_eq_some_iff.mpr opens, Directive.isBlockMarker]

theorem blockMarkers_plain (plain : ¬ segment.Bounds) :
    blockMarkers (segment :: rest) = blockMarkers rest := by
  have unmarked : segment.boundary? = none := by
    rw [Segment.bounds_iff] at plain
    unfold Segment.boundary?
    cases marker : segment.directive? with
    | none => rfl
    | some found => cases found <;> simp_all [Directive.isBlockMarker]
  exact List.filterMap_cons_none unmarked

namespace Fate

def prepend (text : String) : Fate → Fate
  | committed name content => committed name (text ++ content)
  | abandoned name opened => abandoned name opened
  | unterminated name => unterminated name

@[simp]
theorem prepend_empty (fate : Fate) : fate.prepend "" = fate := by
  cases fate <;> simp [prepend]

theorem prepend_prepend (first second : String) (fate : Fate) :
    (fate.prepend second).prepend first = fate.prepend (first ++ second) := by
  cases fate <;> simp [prepend, String.append_assoc]

theorem ofStart_end (closes : segment.Spells .blockEnd) :
    ofStart name (segment :: rest) = committed name "" := by
  have bounds : segment.Bounds := .inr closes
  simp [ofStart, blockMarkers_end rest closes, bounds]

theorem ofStart_start (opens : segment.Spells (.blockStart opened)) :
    ofStart name (segment :: rest) = abandoned name opened := by
  simp [ofStart, blockMarkers_start rest opens]

theorem ofStart_plain (plain : ¬ segment.Bounds) :
    ofStart name (segment :: rest) = (ofStart name rest).prepend segment.value := by
  unfold ofStart
  rw [blockMarkers_plain rest plain]
  split <;> simp [prepend, plain]

end Fate

@[simp]
theorem Fate.name_ofStart (name : String) (page : SegmentSequence) : (Fate.ofStart name page).name = name := by
  unfold ofStart
  split <;> rfl

theorem fates_start (opens : segment.Spells (.blockStart opened)) :
    fates (segment :: rest) = Fate.ofStart opened rest :: fates rest := by
  simp [fates, firstFate?, Segment.opened?_eq_some_iff.mpr opens]

theorem fates_other (other : ∀ name, ¬ segment.Spells (.blockStart name)) :
    fates (segment :: rest) = fates rest := by
  simp [fates, firstFate?, Segment.opened?_eq_none_iff.mpr other]

end Markers

/-- What becomes of the open block in the rest of its page. -/
def OpenBlock.fate (page : SegmentSequence) (block : OpenBlock) : Fate :=
  (Fate.ofStart block.name page).prepend block.content

@[simp]
theorem OpenBlock.fate_fresh (page : SegmentSequence) (name : String) :
    OpenBlock.fate page ⟨name, ""⟩ = Fate.ofStart name page := Fate.prepend_empty _

def fatesFrom (opened : Option OpenBlock) (page : SegmentSequence) : List Fate :=
  (opened.map (OpenBlock.fate page)).toList ++ fates page

section Steps

variable (opened : Option OpenBlock) {segment : Segment} (rest : SegmentSequence)

theorem fatesFrom_end (closes : segment.Spells .blockEnd) :
    fatesFrom opened (segment :: rest) =
      (opened.map fun block => Fate.committed block.name block.content).toList ++ fatesFrom none rest := by
  unfold fatesFrom
  rw [fates_other rest closes.not_start]
  cases opened <;> simp [OpenBlock.fate, Fate.ofStart_end _ rest closes, Fate.prepend]

theorem fatesFrom_start {name : String} (opens : segment.Spells (.blockStart name)) :
    fatesFrom opened (segment :: rest) =
      (opened.map fun block => Fate.abandoned block.name name).toList ++
        fatesFrom (some ⟨name, ""⟩) rest := by
  cases opened with
  | none => simp [fatesFrom, fates_start rest opens]
  | some block =>
    have dropped : OpenBlock.fate (segment :: rest) block = .abandoned block.name name := by
      simp [OpenBlock.fate, Fate.ofStart_start _ rest opens, Fate.prepend]
    simp [fatesFrom, fates_start rest opens, dropped]

theorem fatesFrom_plain (plain : ¬ segment.Bounds) :
    fatesFrom opened (segment :: rest) = fatesFrom (OpenBlock.collect segment.value opened) rest := by
  unfold fatesFrom
  rw [fates_other rest (Segment.not_start_of_plain plain)]
  cases opened <;>
    simp [OpenBlock.fate, OpenBlock.collect, Fate.ofStart_plain _ rest plain, Fate.prepend_prepend]

end Steps

/-- By induction on the page; a block that is open when the walk comes to the rest of its page has
its fate there. -/
theorem extractFrom_fates (blocks : BlockMap) (opened : Option OpenBlock) (page : SegmentSequence) :
    (extractFrom blocks opened page).events = (fatesFrom opened page).filterMap Fate.report? ∧
      (extractFrom blocks opened page).blocks =
        blocks.insertAll ((fatesFrom opened page).filterMap Fate.entry?) := by
  induction page generalizing blocks opened with
  | nil => cases opened <;> exact ⟨rfl, rfl⟩
  | cons segment rest ih =>
    by_cases bounds : segment.Bounds
    · obtain ⟨name, opens⟩ | closes := bounds
      · obtain ⟨events, entries⟩ := ih blocks (some ⟨name, ""⟩)
        rw [extractFrom_start blocks opened rest opens, fatesFrom_start opened rest opens]
        cases opened with
        | none => exact ⟨events, entries⟩
        | some block => exact ⟨congrArg (Event.abandoned block.name name :: ·) events, entries⟩
      · obtain ⟨events, entries⟩ := ih (OpenBlock.commit blocks opened) none
        rw [extractFrom_end blocks opened rest closes, fatesFrom_end opened rest closes]
        cases opened with
        | none => exact ⟨events, entries⟩
        | some block => exact ⟨events, entries⟩
    · rw [extractFrom_plain blocks opened rest bounds, fatesFrom_plain opened rest bounds]
      exact ih blocks (OpenBlock.collect segment.value opened)

section Order

theorem isBlockMarker_of_mem_blockMarkers {page : SegmentSequence} {marker : Directive}
    (found : marker ∈ blockMarkers page) : marker.isBlockMarker = true := by
  obtain ⟨segment, -, spelled⟩ := List.mem_filterMap.mp found
  exact (Option.filter_eq_some_iff.mp spelled).2

theorem Fate.discard?_ofStart (name : String) (page : SegmentSequence) :
    (Fate.ofStart name page).discard? =
      if blockMarkers page = [] then some (.unterminated name) else none := by
  unfold Fate.ofStart
  cases markers : blockMarkers page with
  | nil => rfl
  | cons marker later =>
    have first : marker ∈ blockMarkers page := by simp [markers]
    have bounding := isBlockMarker_of_mem_blockMarkers first
    cases marker with
    | blockStart opened => rfl
    | blockEnd => rfl
    | extend base => cases bounding

theorem map_name_fates (page : SegmentSequence) : (fates page).map Fate.name = startedNames page := by
  induction page with
  | nil => rfl
  | cons segment rest ih =>
    unfold startedNames at *
    cases opens : segment.opened? with
    | none =>
      rw [fates_other rest (Segment.opened?_eq_none_iff.mp opens), List.filterMap_cons_none opens, ih]
    | some name =>
      rw [fates_start rest (Segment.opened?_eq_some_iff.mp opens), List.filterMap_cons_some opens,
        List.map_cons, ih, Fate.name_ofStart]

theorem startedNames_eq_blockMarkers (page : SegmentSequence) :
    startedNames page = (blockMarkers page).filterMap Directive.blockName? := by
  rw [blockMarkers, List.filterMap_filterMap, startedNames]
  apply List.filterMap_congr
  intro segment _
  unfold Segment.opened? Segment.boundary?
  cases segment.directive? with
  | none => rfl
  | some marker => cases marker <;> rfl

theorem fates_of_unmarked {page : SegmentSequence} (unmarked : blockMarkers page = []) : fates page = [] := by
  apply List.map_eq_nil_iff.mp
  rw [map_name_fates, startedNames_eq_blockMarkers, unmarked]
  rfl

theorem lastDiscard?_end {segment : Segment} (closes : segment.Spells .blockEnd) (rest : SegmentSequence) :
    lastDiscard? (segment :: rest) = lastDiscard? rest := by
  unfold lastDiscard?
  rw [blockMarkers_end rest closes, List.getLast?_cons]
  cases (blockMarkers rest).getLast? <;> rfl

theorem lastDiscard?_start {segment : Segment} {name : String}
    (opens : segment.Spells (.blockStart name)) (rest : SegmentSequence) :
    lastDiscard? (segment :: rest) =
      if blockMarkers rest = [] then some (.unterminated name) else lastDiscard? rest := by
  unfold lastDiscard?
  rw [blockMarkers_start rest opens, List.getLast?_cons]
  by_cases unmarked : blockMarkers rest = []
  · simp [unmarked]
  · rw [if_neg unmarked, List.getLast?_eq_some_getLast unmarked]
    rfl

theorem lastDiscard?_plain {segment : Segment} (plain : ¬ segment.Bounds) (rest : SegmentSequence) :
    lastDiscard? (segment :: rest) = lastDiscard? rest := by
  unfold lastDiscard?
  rw [blockMarkers_plain rest plain]

theorem discards_fates (page : SegmentSequence) :
    (fates page).filterMap Fate.discard? = (lastDiscard? page).toList := by
  induction page with
  | nil => rfl
  | cons segment rest ih =>
    by_cases bounds : segment.Bounds
    · obtain ⟨name, opens⟩ | closes := bounds
      · rw [fates_start rest opens, lastDiscard?_start opens, List.filterMap_cons, Fate.discard?_ofStart]
        by_cases unmarked : blockMarkers rest = []
        · simp [unmarked, fates_of_unmarked unmarked]
        · simp [unmarked, ih]
      · rw [fates_other rest closes.not_start, lastDiscard?_end closes, ih]
    · rw [fates_other rest (Segment.not_start_of_plain bounds), lastDiscard?_plain bounds, ih]

theorem reports_fates (page : SegmentSequence) :
    (fates page).filterMap Fate.report? =
      (fates page).filterMap Fate.abandonment? ++ (fates page).filterMap Fate.discard? := by
  induction page with
  | nil => rfl
  | cons segment rest ih =>
    cases opens : segment.opened? with
    | none => rw [fates_other rest (Segment.opened?_eq_none_iff.mp opens), ih]
    | some name =>
      have last := Fate.discard?_ofStart name rest
      rw [fates_start rest (Segment.opened?_eq_some_iff.mp opens)]
      cases fate : Fate.ofStart name rest with
      | committed _ content => exact ih
      | abandoned _ opened => exact congrArg (Event.abandoned _ opened :: ·) ih
      | unterminated _ =>
        -- No start comes after this one, so the reports end here.
        have unmarked : blockMarkers rest = [] := by
          by_contra marked
          rw [fate, if_neg marked] at last
          cases last
        rw [fates_of_unmarked unmarked]
        rfl

theorem length_fates (settled : List Fate) :
    settled.length = (settled.filterMap Fate.entry?).length +
      (settled.filterMap Fate.report?).countP (·.message = "block opened before the previous one was closed") +
      (settled.filterMap Fate.report?).countP (·.message = "unterminated block discarded") := by
  induction settled with
  | nil => rfl
  | cons fate settled ih =>
    rw [List.length_cons, ih]
    cases fate with
    | committed name content =>
      have entered : Fate.entry? (.committed name content) = some (name, content) := rfl
      have silent : Fate.report? (.committed name content) = none := rfl
      rw [List.filterMap_cons_some entered, List.filterMap_cons_none silent, List.length_cons]
      omega
    | abandoned name opened =>
      have dropped : Fate.entry? (.abandoned name opened) = none := rfl
      have reported : Fate.report? (.abandoned name opened) = some (.abandoned name opened) := rfl
      rw [List.filterMap_cons_none dropped, List.filterMap_cons_some reported,
        List.countP_cons_of_pos (by rfl), List.countP_cons_of_neg (by simp [Event.message])]
      omega
    | unterminated name =>
      have dropped : Fate.entry? (.unterminated name) = none := rfl
      have reported : Fate.report? (.unterminated name) = some (.unterminated name) := rfl
      rw [List.filterMap_cons_none dropped, List.filterMap_cons_some reported,
        List.countP_cons_of_neg (by simp [Event.message]), List.countP_cons_of_pos (by rfl)]
      omega

end Order

/-- Every block that a page starts is committed, reported as abandoned or reported as never closed,
and is only one of these. The abandoned ones are reported in the order of their starts, and then the
last one if nothing closes it. -/
theorem blockStarts_accounted (page : SegmentSequence) :
    (extractBlocks page).events =
        (fates page).filterMap Fate.abandonment? ++ (lastDiscard? page).toList ∧
      (fates page).filterMap Fate.discard? = (lastDiscard? page).toList ∧
      (extractBlocks page).blocks = .ofList ((fates page).filterMap Fate.entry?) ∧
      (fates page).map Fate.name = startedNames page ∧
      (startedNames page).length = ((fates page).filterMap Fate.entry?).length +
        (extractBlocks page).events.countP (·.message = "block opened before the previous one was closed") +
        (extractBlocks page).events.countP (·.message = "unterminated block discarded") := by
  obtain ⟨events, entries⟩ := extractFrom_fates .empty none page
  change (extractBlocks page).events = (fates page).filterMap Fate.report? at events
  change (extractBlocks page).blocks = .ofList ((fates page).filterMap Fate.entry?) at entries
  have discards := discards_fates page
  refine ⟨?_, discards, entries, map_name_fates page, ?_⟩
  · rw [events, reports_fates, discards]
  · rw [events, ← length_fates, ← map_name_fates, List.length_map]

end BlockTemplates
