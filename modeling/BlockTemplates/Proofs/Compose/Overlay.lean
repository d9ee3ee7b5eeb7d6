import BlockTemplates.Proofs.Compose.Blocks

/-! Blocks laid over a page, read from left to right without a walker's state. Main statement:
`overlaid_iff`, the page after `replaceBlocks` shows exactly that text. -/

namespace BlockTemplates

open SegmentSequence (flatten)

/-- `text` is what `page` shows when `blocks` are laid over it. A block start that is overridden
shows the given content and hides everything up to the next end marker, or to the end of the page;
all other markers of blocks show nothing and all other segments their value. -/
inductive Overlaid (blocks : String → String → Prop) : SegmentSequence → String → Prop
  | nil : Overlaid blocks [] ""
  | closed (start : Segment) (region : SegmentSequence) (stop : Segment) (rest : SegmentSequence)
      (name content text : String) (opens : start.Spells (.blockStart name))
      (given : blocks name content) (inside : ∀ segment ∈ region, ¬ segment.Spells .blockEnd)
      (closes : stop.Spells .blockEnd) (tail : Overlaid blocks rest text) :
      Overlaid blocks (start :: (region ++ stop :: rest)) (content ++ text)
  | unclosed (start : Segment) (region : SegmentSequence) (name content : String)
      (opens : start.Spells (.blockStart name)) (given : blocks name content)
      (inside : ∀ segment ∈ region, ¬ segment.Spells .blockEnd) :
      Overlaid blocks (start :: region) content
  | kept (start : Segment) (rest : SegmentSequence) (name text : String)
      (opens : start.Spells (.blockStart name)) (free : ∀ content, ¬ blocks name content)
      (tail : Overlaid blocks rest text) : Overlaid blocks (start :: rest) text
  | stray (stop : Segment) (rest : SegmentSequence) (text : String)
      (closes : stop.Spells .blockEnd) (tail : Overlaid blocks rest text) :
      Overlaid blocks (stop :: rest) text
  | plain (segment : Segment) (rest : SegmentSequence) (text : String)
      (plain : ¬ segment.Bounds) (tail : Overlaid blocks rest text) :
      Overlaid blocks (segment :: rest) (segment.value ++ text)

section Walk

variable {blocks : BlockMap} {segment : Segment} (rest : SegmentSequence)

theorem replaceFrom_suppressed :
    replaceFrom blocks true (segment :: rest) =
      (replaceFrom blocks (segment.directive? ≠ some .blockEnd) rest).keep segment.zero := by
  simp [replaceFrom]

theorem replaceFrom_end (closes : segment.Spells .blockEnd) :
    replaceFrom blocks false (segment :: rest) = (replaceFrom blocks false rest).keep segment.zero := by
  simp [replaceFrom, Segment.directive?_eq_some_iff.mpr closes]

theorem replaceFrom_kept {name : String} (opens : segment.Spells (.blockStart name))
    (free : blocks.get? name = none) :
    replaceFrom blocks false (segment :: rest) = (replaceFrom blocks false rest).keep segment.zero := by
  simp [replaceFrom, Segment.directive?_eq_some_iff.mpr opens, free]

theorem replaceFrom_overridden {name content : String} (opens : segment.Spells (.blockStart name))
    (given : blocks.get? name = some content) :
    replaceFrom blocks false (segment :: rest) =
      ⟨segment.replace content :: (replaceFrom blocks true rest).sequence,
        .overridden name :: (replaceFrom blocks true rest).events⟩ := by
  simp [replaceFrom, Segment.directive?_eq_some_iff.mpr opens, given, Replacement.keep]

theorem replaceFrom_plain (plain : ¬ segment.Bounds) :
    replaceFrom blocks false (segment :: rest) = (replaceFrom blocks false rest).keep segment := by
  rw [Segment.bounds_iff] at plain
  rw [replaceFrom]
  cases marker : segment.directive? with
  | none => rfl
  | some found => cases found <;> simp_all [Directive.isBlockMarker]

end Walk

def shownFrom (blocks : BlockMap) (suppressing : Bool) (page : SegmentSequence) : String :=
  flatten (replaceFrom blocks suppressing page).sequence

private theorem shownFrom_hidden (blocks : BlockMap) {region : SegmentSequence}
    (inside : ∀ segment ∈ region, ¬ segment.Spells .blockEnd) (rest : SegmentSequence) :
    shownFrom blocks true (region ++ rest) = shownFrom blocks true rest := by
  induction region with
  | nil => rfl
  | cons segment region ih =>
    rw [List.forall_mem_cons] at inside
    have other : segment.directive? ≠ some .blockEnd := by
      rw [ne_eq, Segment.directive?_eq_some_iff]
      exact inside.1
    rw [← ih inside.2]
    simp [shownFrom, replaceFrom_suppressed, other, Replacement.keep]

private theorem shownFrom_closed (blocks : BlockMap) {stop : Segment}
    (closes : stop.Spells .blockEnd) (rest : SegmentSequence) :
    shownFrom blocks true (stop :: rest) = shownFrom blocks false rest := by
  simp [shownFrom, replaceFrom_suppressed, Segment.directive?_eq_some_iff.mpr closes,
    Replacement.keep]

private theorem shownFrom_overridden {blocks : BlockMap} {start : Segment} {name content : String}
    (opens : start.Spells (.blockStart name)) (given : blocks.get? name = some content)
    (rest : SegmentSequence) :
    shownFrom blocks false (start :: rest) = content ++ shownFrom blocks true rest := by
  simp [shownFrom, replaceFrom_overridden rest opens given]

private theorem shownFrom_eq {blocks : BlockMap} {page : SegmentSequence} {text : String}
    (overlaid : Overlaid (fun name content => blocks.get? name = some content) page text) :
    shownFrom blocks false page = text := by
  induction overlaid with
  | nil => rfl
  | closed start region stop rest name content text opens given inside closes tail ih =>
    rw [shownFrom_overridden opens given, shownFrom_hidden blocks inside,
      shownFrom_closed blocks closes, ih]
  | unclosed start region name content opens given inside =>
    have hidden := shownFrom_hidden blocks inside []
    rw [List.append_nil] at hidden
    rw [shownFrom_overridden opens given, hidden]
    exact String.append_empty
  | kept start rest name text opens free tail ih =>
    have absent : blocks.get? name = none := Option.eq_none_iff_forall_ne_some.mpr free
    rw [← ih]
    simp [shownFrom, replaceFrom_kept rest opens absent, Replacement.keep]
  | stray stop rest text closes tail ih =>
    rw [← ih]
    simp [shownFrom, replaceFrom_end rest closes, Replacement.keep]
  | plain segment rest text plain tail ih =>
    rw [← ih]
    simp [shownFrom, replaceFrom_plain rest plain, Replacement.keep]

/-- By induction on the page; the second part is about a page whose front `start :: region` has
been overridden and not closed yet. -/
private theorem overlaid_shownFrom (blocks : BlockMap) (page : SegmentSequence) :
    Overlaid (fun name content => blocks.get? name = some content) page (shownFrom blocks false page) ∧
    ∀ (start : Segment) (region : SegmentSequence) (name content : String),
      start.Spells (.blockStart name) → blocks.get? name = some content →
      (∀ segment ∈ region, ¬ segment.Spells .blockEnd) →
      Overlaid (fun name content => blocks.get? name = some content) (start :: (region ++ page))
        (content ++ shownFrom blocks true page) := by
  induction page with
  | nil =>
    refine ⟨.nil, fun start region name content opens given inside => ?_⟩
    rw [List.append_nil]
    exact .unclosed start region name _ opens (given.trans (by simp [shownFrom, replaceFrom])) inside
  | cons segment rest ih =>
    obtain ⟨scanned, suppressed⟩ := ih
    constructor
    · by_cases bounds : segment.Bounds
      · obtain ⟨name, opens⟩ | closes := bounds
        · cases held : blocks.get? name with
          | some content =>
            rw [shownFrom_overridden opens held]
            exact suppressed segment [] name content opens held (by simp)
          | none =>
            have same : shownFrom blocks false (segment :: rest) = shownFrom blocks false rest := by
              simp [shownFrom, replaceFrom_kept rest opens held, Replacement.keep]
            rw [same]
            exact .kept segment rest name _ opens (by simp [held]) scanned
        · have same : shownFrom blocks false (segment :: rest) = shownFrom blocks false rest := by
            simp [shownFrom, replaceFrom_end rest closes, Replacement.keep]
          rw [same]
          exact .stray segment rest _ closes scanned
      · have same : shownFrom blocks false (segment :: rest) =
            segment.value ++ shownFrom blocks false rest := by
          simp [shownFrom, replaceFrom_plain rest bounds, Replacement.keep]
        rw [same]
        exact .plain segment rest _ bounds scanned
    · intro start region name content opens given inside
      by_cases closes : segment.Spells .blockEnd
      · rw [shownFrom_closed blocks closes]
        exact .closed start region segment rest name content _ opens given inside closes scanned
      · have longer : ∀ hidden ∈ region ++ [segment], ¬ hidden.Spells .blockEnd := by
          intro hidden member
          obtain member | member := List.mem_append.mp member
          · exact inside hidden member
          · exact List.mem_singleton.mp member ▸ closes
        have hides : ∀ hidden ∈ [segment], ¬ hidden.Spells .blockEnd := by simpa using closes
        have same := shownFrom_hidden blocks hides rest
        rw [List.singleton_append] at same
        rw [same]
        simpa using suppressed start (region ++ [segment]) name content opens given longer

theorem overlaid_iff {blocks : BlockMap} {page : SegmentSequence} {text : String} :
    Overlaid (fun name content => blocks.get? name = some content) page text ↔
      flatten (replaceBlocks blocks page).sequence = text := by
  constructor
  · exact shownFrom_eq
  · rintro rfl
    exact (overlaid_shownFrom blocks page).1

end BlockTemplates
