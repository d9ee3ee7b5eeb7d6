import BlockTemplates.Proofs.Compose.Blocks
import BlockTemplates.Proofs.Dict

/-! What a page adds to its blocks. A segment that lies outside of every closed block of its page can
be taken out of the page, and the blocks stay the same. Main statement: `extractBlocks_exact`. -/

namespace BlockTemplates

open SegmentSequence (flatten)

/-- The segment between `before` and `after` belongs to no block of the page, neither to its text nor
to the markers at its ends. -/
def Outside (before : SegmentSequence) (segment : Segment) (after : SegmentSequence) : Prop :=
  ∀ front name body back, IsBlock (before ++ segment :: after) front name body back →
    before.length < front.length ∨ front.length + body.length + 1 < before.length

theorem Outside.of_append {first before after : SegmentSequence} {segment : Segment}
    (outside : Outside (first ++ before) segment after) : Outside before segment after := by
  rintro front name body back ⟨start, stop, whole, opens, closes, inside⟩
  have block : IsBlock (first ++ before ++ segment :: after) (first ++ front) name body back := by
    refine ⟨start, stop, ?_, opens, closes, inside⟩
    rw [List.append_assoc, whole, List.append_assoc]
  have apart := outside (first ++ front) name body back block
  simp only [List.length_append] at apart
  omega

theorem isBlock_of_closing? {start : Segment} {name text : String} {rest : SegmentSequence}
    (opens : start.Spells (.blockStart name)) (found : closing? rest = some text) :
    ∃ body back, IsBlock (start :: rest) [] name body back ∧ flatten body = text := by
  obtain ⟨body, stop, back, rfl, closes, inside, held⟩ := closing?_eq_some found
  exact ⟨body, back, ⟨start, stop, rfl, opens, closes, inside⟩, held⟩

theorem closing?_of_outside {segment : Segment} {name : String} {after : SegmentSequence}
    (opens : segment.Spells (.blockStart name)) (outside : Outside [] segment after) :
    closing? after = none := by
  cases found : closing? after with
  | none => rfl
  | some text =>
    obtain ⟨body, back, block, -⟩ := isBlock_of_closing? opens found
    obtain before | beyond := outside [] name body back block
    · cases before
    · cases beyond

theorem outside_of_closing? {segment : Segment} {after : SegmentSequence} (unclosed : closing? after = none) :
    Outside [] segment after := by
  rintro front name body back ⟨start, stop, whole, opens, closes, inside⟩
  cases front with
  | nil =>
    obtain ⟨-, rfl⟩ := List.cons.inj whole
    rw [closing?_append inside, closing?_end closes] at unclosed
    cases unclosed
  | cons first front => exact .inl (Nat.zero_lt_succ _)

/-- What stands after a marker does not decide which marker comes first. -/
theorem closing?_append_of_bounds {before : SegmentSequence} {marker : Segment} (found : marker ∈ before)
    (bounds : marker.Bounds) (rest rest' : SegmentSequence) :
    closing? (before ++ rest) = closing? (before ++ rest') := by
  induction before with
  | nil => cases found
  | cons segment before ih =>
    rw [List.cons_append, List.cons_append]
    by_cases here : segment.Bounds
    · obtain ⟨name, opens⟩ | closes := here
      · rw [closing?_start opens, closing?_start opens]
      · rw [closing?_end closes, closing?_end closes]
    · rcases List.mem_cons.mp found with rfl | later
      · exact absurd bounds here
      · rw [closing?_plain here, closing?_plain here, ih later]

theorem closing?_erase {start segment : Segment} {name : String} {before after : SegmentSequence}
    (opens : start.Spells (.blockStart name)) (outside : Outside (start :: before) segment after) :
    closing? (before ++ after) = closing? (before ++ segment :: after) := by
  by_cases bounded : ∃ marker ∈ before, marker.Bounds
  · obtain ⟨marker, found, bounds⟩ := bounded
    exact closing?_append_of_bounds found bounds _ _
  · have inside : ∀ other ∈ before, ¬ other.Bounds := fun other found bounds =>
      bounded ⟨other, found, bounds⟩
    -- The block that `start` opens would hold the segment if what comes next closed it.
    have unclosed : closing? (segment :: after) = none := by
      cases found : closing? (segment :: after) with
      | none => rfl
      | some text =>
        obtain ⟨body, stop, back, whole, closes, free, -⟩ := closing?_eq_some found
        have block : IsBlock (start :: before ++ segment :: after) [] name (before ++ body) back := by
          refine ⟨start, stop, ?_, opens, closes, ?_⟩
          · rw [whole, List.nil_append, List.append_assoc, List.cons_append]
          · exact List.forall_mem_append.mpr ⟨inside, free⟩
        have apart := outside [] name (before ++ body) back block
        simp only [List.length_nil, List.length_cons, List.length_append] at apart
        omega
    have further : closing? after = none := by
      by_cases bounds : segment.Bounds
      · obtain ⟨other, opens'⟩ | closes := bounds
        · have alone : Outside (start :: before ++ []) segment after := by rwa [List.append_nil]
          exact closing?_of_outside opens' alone.of_append
        · rw [closing?_end closes] at unclosed
          cases unclosed
      · rwa [closing?_plain bounds, Option.map_eq_none_iff] at unclosed
    rw [closing?_append inside, closing?_append inside, unclosed, further]

theorem committed?_erase {before after : SegmentSequence} {segment : Segment}
    (outside : Outside before segment after) (name : String) :
    committed? name (before ++ after) = committed? name (before ++ segment :: after) := by
  induction before with
  | nil =>
    by_cases opens : segment.Spells (.blockStart name)
    · rw [List.nil_append, List.nil_append, committed?_start opens, closing?_of_outside opens outside,
        Option.or_none]
    · rw [List.nil_append, List.nil_append, committed?_other opens]
  | cons start before ih =>
    have outside' : Outside ([start] ++ before) segment after := outside
    have later := ih outside'.of_append
    rw [List.cons_append, List.cons_append]
    by_cases opens : start.Spells (.blockStart name)
    · rw [committed?_start opens, committed?_start opens, later, closing?_erase opens outside]
    · rw [committed?_other opens, committed?_other opens, later]

theorem get?_extractBlocks_eq (name : String) (page : SegmentSequence) :
    (extractBlocks page).blocks.get? name = committed? name page := by
  rw [extractBlocks, get?_extractFrom]
  simp [finished?]

theorem isSome_committed?_iff {name : String} {page : SegmentSequence} :
    (committed? name page).isSome = true ↔ ∃ before body after, IsBlock page before name body after := by
  rw [← not_iff_not, Bool.not_eq_true, Option.isSome_eq_false_iff, Option.isNone_iff_eq_none,
    committed?_eq_none_iff]
  simp only [not_exists]

/-- A page gives a block of some name exactly if it has one that is closed; the text is that of the
last one, and all that lies outside of closed blocks makes no difference. -/
theorem extractBlocks_exact (page : SegmentSequence) :
    (∀ name, (extractBlocks page).blocks.contains name = true ↔
        ∃ before body after, IsBlock page before name body after) ∧
      (∀ name text, (extractBlocks page).blocks.get? name = some text ↔ Commits page name text) ∧
      ∀ before segment after, page = before ++ segment :: after → Outside before segment after →
        (extractBlocks (before ++ after)).blocks = (extractBlocks page).blocks := by
  refine ⟨fun name => ?_, fun _ _ => get?_extractBlocks, ?_⟩
  · rw [Dict.contains, get?_extractBlocks_eq, isSome_committed?_iff]
  · rintro before segment after rfl outside
    apply Dict.ext_get?
    intro name
    rw [get?_extractBlocks_eq, get?_extractBlocks_eq, committed?_erase outside]

/-- A block `aside` that is abandoned, a block `main` and an end marker that closes nothing. -/
def abandonedPage : SegmentSequence :=
  [.dynamic (some "\x7b\x7b aside \x7d\x7d"), .static "lost", .dynamic (some "\x7b\x7b main \x7d\x7d"),
    .static "kept", .dynamic (some "\x7b\x7b end \x7d\x7d"), .dynamic (some "\x7b\x7b end \x7d\x7d")]

theorem extractBlocks_exact_abandoned :
    Outside [] (.dynamic (some "\x7b\x7b aside \x7d\x7d")) abandonedPage.tail ∧
      (extractBlocks abandonedPage.tail).blocks = (extractBlocks abandonedPage).blocks ∧
      Commits abandonedPage "main" "kept" := by
  have outside : Outside [] (.dynamic (some "\x7b\x7b aside \x7d\x7d")) abandonedPage.tail :=
    outside_of_closing? (by decide +kernel)
  have exact := extractBlocks_exact abandonedPage
  refine ⟨outside, exact.2.2 [] _ _ rfl outside, (exact.2.1 "main" "kept").mp ?_⟩
  decide +kernel

end BlockTemplates
