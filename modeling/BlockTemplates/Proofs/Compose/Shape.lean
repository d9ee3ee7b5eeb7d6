import BlockTemplates.Proofs.Compose.Regions
import BlockTemplates.Proofs.Compose.Stripping
import Mathlib.Data.List.Induction

/-! Pages under runs of changes. Segments stay as many as they are, each of its kind; a change keeps
the text of a segment, erases it, or puts a block in the place of a marker that opens it. Main
statement: `foldl_edits_history`. -/

namespace BlockTemplates

open SegmentSequence (dynamicCount)

/-- A change of a page in place: one segment is erased, or the page is sent through a pass. -/
inductive Edit where
  | zero (index : Nat)
  | pass (pass : Pass)

/-- The page after one more change. An index beyond its end erases nothing. -/
def Edit.apply (page : SegmentSequence) : Edit → SegmentSequence
  | zero index => page.modify index Segment.zero
  | pass taken => taken.apply page

inductive Edit.Makes (edit : Edit) (segment : Segment) : Segment → Prop
  | kept : Makes edit segment segment
  | erased : Makes edit segment segment.zero
  | replaced {blocks : BlockMap} {name content : String} (laid : edit = .pass (.replace blocks))
      (opens : segment.Spells (.blockStart name)) (given : blocks.get? name = some content) :
      Makes edit segment (segment.replace content)

/-- Some replacement of the run held the text for the block that the segment at that index opened when
its turn came. -/
def Supplied (edits : List Edit) (page : SegmentSequence) (index : Nat) (text : String) : Prop :=
  ∃ before blocks later, edits = before ++ .pass (.replace blocks) :: later ∧
    ∃ segment name, (before.foldl Edit.apply page)[index]? = some segment ∧
      segment.Spells (.blockStart name) ∧ blocks.get? name = some text

structure History (edits : List Edit) (page : SegmentSequence) (index : Nat) (segment after : Segment) :
    Prop where
  kind : after.kind = segment.kind
  static : segment.kind = .static → after.value = segment.value ∨ after.value = ""
  dynamic : segment.kind = .dynamic →
    after.value = segment.value ∨ after.value = "" ∨ Supplied edits page index after.value

section Step

variable {page : SegmentSequence} {index : Nat} {segment : Segment}

theorem ReplacedAt.makes {blocks : BlockMap} {after : Segment}
    (replaced : ReplacedAt blocks page index segment after) :
    Edit.Makes (.pass (.replace blocks)) segment after := by
  by_cases overrides : Overriding blocks page index
  · obtain ⟨name, content, opens, given, rfl⟩ := replaced.overriding overrides
    rw [← opens.1]
    exact .replaced rfl opens given
  · by_cases hidden : Suppressed blocks page index
    · rw [replaced.suppressed hidden]
      exact .erased
    · by_cases bounds : segment.Bounds
      · rw [replaced.marker bounds overrides]
        exact .erased
      · rw [replaced.other bounds hidden]
        exact .kept

theorem makes_stripBlockMarkers (edit : Edit) (found : page[index]? = some segment) :
    ∃ after, (stripBlockMarkers page)[index]? = some after ∧ edit.Makes segment after := by
  rw [stripBlockMarkers_eq_map, List.getElem?_map, found]
  refine ⟨_, rfl, ?_⟩
  dsimp only
  split
  · exact .erased
  · exact .kept

theorem makes_apply (edit : Edit) (found : page[index]? = some segment) :
    ∃ after, (edit.apply page)[index]? = some after ∧ edit.Makes segment after := by
  cases edit with
  | zero erased =>
    rw [Edit.apply, List.getElem?_modify, found]
    refine ⟨_, rfl, ?_⟩
    split
    · exact .erased
    · exact .kept
  | pass pass =>
    cases pass with
    | extract =>
      rw [Edit.apply, Pass.apply, extractBlocks, sequence_extractFrom]
      exact makes_stripBlockMarkers _ found
    | strip => exact makes_stripBlockMarkers _ found
    | replace blocks =>
      obtain ⟨after, there, replaced⟩ := (replaceBlocks_replacedAt blocks page).2 index segment found
      exact ⟨after, there, replaced.makes⟩

theorem length_apply (edit : Edit) (page : SegmentSequence) : (edit.apply page).length = page.length := by
  cases edit with
  | zero erased => exact List.length_modify _ _ _
  | pass pass =>
    cases pass with
    | extract => rw [Edit.apply, Pass.apply, extractBlocks, sequence_extractFrom, stripBlockMarkers, List.length_map]
    | strip => rw [Edit.apply, Pass.apply, stripBlockMarkers, List.length_map]
    | replace blocks => exact (replaceBlocks_replacedAt blocks page).1

end Step

section Run

variable {edits : List Edit} {page : SegmentSequence} {index : Nat} {segment current after : Segment}

theorem Supplied.append {text : String} (supplied : Supplied edits page index text) (more : List Edit) :
    Supplied (edits ++ more) page index text := by
  obtain ⟨before, blocks, later, rfl, held⟩ := supplied
  exact ⟨before, blocks, later ++ more, by rw [List.append_assoc]; rfl, held⟩

theorem history_nil : History [] page index segment segment where
  kind := rfl
  static _ := .inl rfl
  dynamic _ := .inl rfl

theorem History.snoc {edit : Edit} (history : History edits page index segment current)
    (there : (edits.foldl Edit.apply page)[index]? = some current) (made : edit.Makes current after) :
    History (edits ++ [edit]) page index segment after := by
  cases made with
  | kept =>
    refine ⟨history.kind, history.static, fun dynamic => ?_⟩
    exact (history.dynamic dynamic).imp_right fun other => other.imp_right fun supplied => supplied.append _
  | erased => exact ⟨history.kind, fun _ => .inr rfl, fun _ => .inr (.inl rfl)⟩
  | @replaced blocks name content laid opens given =>
    refine ⟨history.kind, fun static => ?_, fun _ => ?_⟩
    · have kinds : SegmentKind.dynamic = .static := by rw [← opens.1, history.kind, static]
      cases kinds
    · rw [laid]
      exact .inr (.inr ⟨edits, blocks, [], rfl, current, name, there, opens, given⟩)

theorem foldl_history (edits : List Edit) (found : page[index]? = some segment) :
    ∃ after, (edits.foldl Edit.apply page)[index]? = some after ∧
      History edits page index segment after := by
  -- from the end of the run, so that what came before a replacement is a run as well
  induction edits using List.reverseRecOn with
  | nil => exact ⟨segment, found, history_nil⟩
  | append_singleton edits edit ih =>
    obtain ⟨current, there, history⟩ := ih
    obtain ⟨after, there', made⟩ := makes_apply edit there
    rw [List.foldl_append]
    exact ⟨after, there', history.snoc there made⟩

theorem length_foldl (edits : List Edit) (page : SegmentSequence) :
    (edits.foldl Edit.apply page).length = page.length := by
  induction edits generalizing page with
  | nil => rfl
  | cons edit edits ih => rw [List.foldl_cons, ih, length_apply]

theorem kinds_foldl (edits : List Edit) (page : SegmentSequence) :
    (edits.foldl Edit.apply page).map Segment.kind = page.map Segment.kind := by
  apply List.ext_getElem?
  intro index
  rw [List.getElem?_map, List.getElem?_map]
  cases found : page[index]? with
  | none =>
    have beyond : page.length ≤ index := List.getElem?_eq_none_iff.mp found
    rw [List.getElem?_eq_none (by rw [length_foldl]; exact beyond)]
  | some segment =>
    obtain ⟨after, there, history⟩ := foldl_history edits found
    rw [there, Option.map_some, history.kind, Option.map_some]

theorem dynamicCount_eq_of_kinds {first second : SegmentSequence}
    (same : first.map Segment.kind = second.map Segment.kind) : dynamicCount first = dynamicCount second := by
  have counted (page : SegmentSequence) : dynamicCount page = (page.map Segment.kind).count .dynamic := by
    rw [dynamicCount, ← List.countP_eq_length_filter, List.count, List.countP_map]
    congr 1
  rw [counted, counted, same]

end Run

/-- However a page is changed, it keeps its length, the kind of each segment and so the number of the
evaluated ones. Literal text is what it was or erased. Evaluated text is what it was, or erased, or the
content that some replacement of the run had for the block which that segment opened at the time. -/
theorem foldl_edits_history (page : SegmentSequence) (edits : List Edit) :
    (edits.foldl Edit.apply page).length = page.length ∧
      (edits.foldl Edit.apply page).map Segment.kind = page.map Segment.kind ∧
      dynamicCount (edits.foldl Edit.apply page) = dynamicCount page ∧
      ∀ index segment, page[index]? = some segment →
        ∃ after, (edits.foldl Edit.apply page)[index]? = some after ∧
          History edits page index segment after :=
  ⟨length_foldl edits page, kinds_foldl edits page, dynamicCount_eq_of_kinds (kinds_foldl edits page),
    fun _ _ found => foldl_history edits found⟩

/-- Two replacements, of which the first one puts a marker in place of a marker. -/
def relayedEdits : List Edit :=
  [.pass (.replace (.ofList [("main", "\x7b\x7b aside \x7d\x7d")])), .zero 2,
    .pass (.replace (.ofList [("aside", "A")]))]

def relayedPage : SegmentSequence :=
  [.dynamic (some "\x7b\x7b main \x7d\x7d"), .dynamic (some "\x7b\x7b end \x7d\x7d"), .static "after"]

theorem foldl_edits_history_relayed :
    relayedEdits.foldl Edit.apply relayedPage = [⟨.dynamic, "A"⟩, ⟨.dynamic, ""⟩, ⟨.static, ""⟩] ∧
      Supplied relayedEdits relayedPage 0 "A" := by
  have made : relayedEdits.foldl Edit.apply relayedPage =
      [⟨.dynamic, "A"⟩, ⟨.dynamic, ""⟩, ⟨.static, ""⟩] := by decide +kernel
  obtain ⟨after, there, history⟩ := (foldl_edits_history relayedPage relayedEdits).2.2.2 0 _ rfl
  rw [made] at there
  obtain rfl := Option.some.inj there
  rcases history.dynamic rfl with same | empty | supplied
  · exact absurd same (by decide)
  · exact absurd empty (by decide)
  · exact ⟨made, supplied⟩

end BlockTemplates
