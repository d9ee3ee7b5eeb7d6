import BlockTemplates.Proofs.Compose.Overlay

/-! Pages without markers of blocks. The collection of blocks leaves the page that stripping leaves,
and from then on no pass over the page changes it or finds a block in it. Main statement:
`extractBlocks_settles`. -/

namespace BlockTemplates

namespace Segment

@[simp]
theorem directive?_zero (segment : Segment) : segment.zero.directive? = none := by
  unfold directive?
  cases segment.zero.kind with
  | static => rfl
  | dynamic => exact (by decide : Directive.recognize? "" = none)

theorem not_bounds_zero (segment : Segment) : ¬ segment.zero.Bounds := by
  rw [bounds_iff, directive?_zero]
  simp

theorem extendTarget?_of_bounds {segment : Segment} (bounds : segment.Bounds) :
    segment.directive?.bind Directive.extendTarget? = none := by
  obtain ⟨name, opens⟩ | closes := bounds
  · rw [directive?_eq_some_iff.mpr opens]
    rfl
  · rw [directive?_eq_some_iff.mpr closes]
    rfl

end Segment

def Unmarked (page : SegmentSequence) : Prop := ∀ segment ∈ page, ¬ segment.Bounds

inductive Pass where
  | extract
  | strip
  | replace (blocks : BlockMap)

def Pass.apply (page : SegmentSequence) : Pass → SegmentSequence
  | extract => (extractBlocks page).sequence
  | strip => stripBlockMarkers page
  | replace blocks => (replaceBlocks blocks page).sequence

theorem stripBlockMarkers_eq_map (page : SegmentSequence) :
    stripBlockMarkers page = page.map fun segment => if segment.Bounds then segment.zero else segment := by
  unfold stripBlockMarkers
  apply List.map_congr_left
  intro segment _
  simp only [Segment.bounds_iff]

theorem stripBlockMarkers_cons_bounds {segment : Segment} (bounds : segment.Bounds) (rest : SegmentSequence) :
    stripBlockMarkers (segment :: rest) = segment.zero :: stripBlockMarkers rest := by
  simp [stripBlockMarkers_eq_map, bounds]

theorem stripBlockMarkers_cons_plain {segment : Segment} (plain : ¬ segment.Bounds) (rest : SegmentSequence) :
    stripBlockMarkers (segment :: rest) = segment :: stripBlockMarkers rest := by
  simp [stripBlockMarkers_eq_map, plain]

/-- Whatever has been collected and is open, the walk erases the markers and nothing else. -/
theorem sequence_extractFrom (blocks : BlockMap) (opened : Option OpenBlock) (page : SegmentSequence) :
    (extractFrom blocks opened page).sequence = stripBlockMarkers page := by
  induction page generalizing blocks opened with
  | nil => rfl
  | cons segment rest ih =>
    by_cases bounds : segment.Bounds
    · rw [stripBlockMarkers_cons_bounds bounds]
      obtain ⟨name, opens⟩ | closes := bounds
      · rw [extractFrom_start blocks opened rest opens]
        exact congrArg (segment.zero :: ·) (ih blocks _)
      · rw [extractFrom_end blocks opened rest closes]
        exact congrArg (segment.zero :: ·) (ih _ none)
    · rw [extractFrom_plain blocks opened rest bounds, stripBlockMarkers_cons_plain bounds]
      exact congrArg (segment :: ·) (ih blocks _)

theorem unmarked_stripBlockMarkers (page : SegmentSequence) : Unmarked (stripBlockMarkers page) := by
  intro segment found
  rw [stripBlockMarkers_eq_map] at found
  obtain ⟨original, -, rfl⟩ := List.mem_map.mp found
  split
  · exact Segment.not_bounds_zero original
  · next plain => exact plain

theorem extendTarget?_stripBlockMarkers (page : SegmentSequence) :
    extendTarget? (stripBlockMarkers page) = extendTarget? page := by
  unfold extendTarget?
  rw [stripBlockMarkers_eq_map, List.findSome?_map]
  congr 1
  funext segment
  by_cases bounds : segment.Bounds
  · simp [bounds, Segment.extendTarget?_of_bounds bounds]
  · simp [bounds]

namespace Unmarked

variable {page : SegmentSequence}

theorem extractBlocks_eq (unmarked : Unmarked page) : extractBlocks page = ⟨page, .empty, []⟩ := by
  unfold extractBlocks
  induction page with
  | nil => rfl
  | cons segment rest ih =>
    obtain ⟨plain, unmarked⟩ := List.forall_mem_cons.mp unmarked
    rw [extractFrom_plain .empty none rest plain]
    have later := ih unmarked
    change (extractFrom .empty none rest).keep segment = _
    rw [later]
    rfl

theorem replaceBlocks_eq (unmarked : Unmarked page) (blocks : BlockMap) :
    replaceBlocks blocks page = ⟨page, []⟩ := by
  unfold replaceBlocks
  induction page with
  | nil => rfl
  | cons segment rest ih =>
    obtain ⟨plain, unmarked⟩ := List.forall_mem_cons.mp unmarked
    rw [replaceFrom_plain rest plain, ih unmarked]
    rfl

theorem stripBlockMarkers_eq (unmarked : Unmarked page) : stripBlockMarkers page = page := by
  have same := sequence_extractFrom .empty none page
  have extracted := unmarked.extractBlocks_eq
  unfold extractBlocks at extracted
  rw [← same, extracted]

theorem apply_eq (unmarked : Unmarked page) (pass : Pass) : pass.apply page = page := by
  cases pass with
  | extract => rw [Pass.apply, unmarked.extractBlocks_eq]
  | strip => exact unmarked.stripBlockMarkers_eq
  | replace blocks => rw [Pass.apply, unmarked.replaceBlocks_eq]

theorem foldl_eq (unmarked : Unmarked page) (passes : List Pass) : passes.foldl Pass.apply page = page := by
  induction passes with
  | nil => rfl
  | cons pass passes ih => rw [List.foldl_cons, unmarked.apply_eq, ih]

end Unmarked

/-- The collection of blocks leaves a page as stripping does, with the text of its block markers
erased and all else as it was. What is left bounds no block and extends what it did; any passes after
that leave it alone, and the collection of blocks finds and reports nothing in it. -/
theorem extractBlocks_settles (page : SegmentSequence) :
    (extractBlocks page).sequence = stripBlockMarkers page ∧
      stripBlockMarkers page =
        page.map (fun segment => if segment.Bounds then ⟨segment.kind, ""⟩ else segment) ∧
      (∀ segment ∈ stripBlockMarkers page, ¬ segment.Bounds) ∧
      extendTarget? (stripBlockMarkers page) = extendTarget? page ∧
      ∀ passes : List Pass, passes.foldl Pass.apply (stripBlockMarkers page) = stripBlockMarkers page ∧
        extractBlocks (passes.foldl Pass.apply (stripBlockMarkers page)) =
          ⟨stripBlockMarkers page, .empty, []⟩ := by
  have unmarked := unmarked_stripBlockMarkers page
  refine ⟨sequence_extractFrom .empty none page, stripBlockMarkers_eq_map page, unmarked,
    extendTarget?_stripBlockMarkers page, ?_⟩
  intro passes
  rw [unmarked.foldl_eq passes]
  exact ⟨rfl, unmarked.extractBlocks_eq⟩

end BlockTemplates
