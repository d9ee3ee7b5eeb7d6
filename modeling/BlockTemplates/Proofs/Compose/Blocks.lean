import BlockTemplates.Compose.Block

/-! Blocks of a page, said of the page as a whole. A block is a marker that opens it, segments that
bound no block, and an end marker; the last block of a name counts. Main statement:
`get?_extractBlocks`, the walk that collects blocks finds these and no others. -/

namespace BlockTemplates

namespace Segment

def Spells (segment : Segment) (marker : Directive) : Prop :=
  segment.kind = .dynamic ∧ Directive.recognize? segment.value = some marker

def Bounds (segment : Segment) : Prop :=
  (∃ name, segment.Spells (.blockStart name)) ∨ segment.Spells .blockEnd

theorem directive?_eq_some_iff {segment : Segment} {marker : Directive} :
    segment.directive? = some marker ↔ segment.Spells marker := by
  unfold directive? Spells
  cases segment.kind <;> simp

theorem Spells.unique {segment : Segment} {first second : Directive}
    (one : segment.Spells first) (other : segment.Spells second) : first = second := by
  rw [← directive?_eq_some_iff] at one other
  exact Option.some.inj (one.symm.trans other)

theorem bounds_iff {segment : Segment} :
    segment.Bounds ↔ segment.directive?.any Directive.isBlockMarker = true := by
  simp only [Bounds, ← directive?_eq_some_iff]
  cases segment.directive? with
  | none => simp
  | some marker => cases marker <;> simp [Directive.isBlockMarker]

instance : DecidablePred Bounds := fun _ => decidable_of_iff _ bounds_iff.symm

theorem Spells.bounds_start {segment : Segment} {name : String}
    (opens : segment.Spells (.blockStart name)) : segment.Bounds := .inl ⟨name, opens⟩

theorem Spells.not_start {segment : Segment} (closes : segment.Spells .blockEnd) (name : String) :
    ¬ segment.Spells (.blockStart name) :=
  fun opens => Directive.noConfusion (opens.unique closes)

theorem not_start_of_plain {segment : Segment} (plain : ¬ segment.Bounds) (name : String) :
    ¬ segment.Spells (.blockStart name) :=
  fun opens => plain opens.bounds_start

def opened? (segment : Segment) : Option String := segment.directive?.bind Directive.blockName?

theorem opened?_eq_some_iff {segment : Segment} {name : String} :
    segment.opened? = some name ↔ segment.Spells (.blockStart name) := by
  rw [opened?, ← directive?_eq_some_iff]
  cases segment.directive? with
  | none => simp
  | some marker => cases marker <;> simp [Directive.blockName?]

theorem opened?_eq_none_iff {segment : Segment} :
    segment.opened? = none ↔ ∀ name, ¬ segment.Spells (.blockStart name) := by
  simp only [Option.eq_none_iff_forall_ne_some, ne_eq, opened?_eq_some_iff]

@[simp]
theorem zero_value (segment : Segment) : segment.zero.value = "" := rfl

@[simp]
theorem replace_value (segment : Segment) (value : String) :
    (segment.replace value).value = value := rfl

end Segment

open SegmentSequence (flatten)

def startedNames (page : SegmentSequence) : List String := page.filterMap Segment.opened?

theorem mem_startedNames {page : SegmentSequence} {name : String} :
    name ∈ startedNames page ↔ ∃ segment ∈ page, segment.Spells (.blockStart name) := by
  simp only [startedNames, List.mem_filterMap, Segment.opened?_eq_some_iff]

/-- `page` is `before`, a marker that opens `name`, a `body` that bounds no block, an end marker
and `after`. -/
def IsBlock (page before : SegmentSequence) (name : String) (body after : SegmentSequence) : Prop :=
  ∃ start stop, page = before ++ start :: (body ++ stop :: after) ∧
    start.Spells (.blockStart name) ∧ stop.Spells .blockEnd ∧ ∀ segment ∈ body, ¬ segment.Bounds

def Commits (page : SegmentSequence) (name text : String) : Prop :=
  ∃ before body after, IsBlock page before name body after ∧ flatten body = text ∧
    ∀ before' body' after', ¬ IsBlock after before' name body' after'

/-- The text before the first marker that bounds a block, when that is an end marker. -/
def closing? : SegmentSequence → Option String
  | [] => none
  | segment :: rest =>
    match segment.directive? with
    | some .blockEnd => some ""
    | some (.blockStart _) => none
    | _ => (closing? rest).map (segment.value ++ ·)

def committed? (name : String) : SegmentSequence → Option String
  | [] => none
  | segment :: rest => (committed? name rest).or
      (if segment.directive? = some (.blockStart name) then closing? rest else none)

theorem closing?_end {segment : Segment} (closes : segment.Spells .blockEnd)
    (rest : SegmentSequence) : closing? (segment :: rest) = some "" := by
  simp [closing?, Segment.directive?_eq_some_iff.mpr closes]

theorem closing?_start {segment : Segment} {name : String}
    (opens : segment.Spells (.blockStart name)) (rest : SegmentSequence) :
    closing? (segment :: rest) = none := by
  simp [closing?, Segment.directive?_eq_some_iff.mpr opens]

theorem closing?_plain {segment : Segment} (plain : ¬ segment.Bounds) (rest : SegmentSequence) :
    closing? (segment :: rest) = (closing? rest).map (segment.value ++ ·) := by
  rw [Segment.bounds_iff] at plain
  rw [closing?]
  cases marker : segment.directive? with
  | none => rfl
  | some found => cases found <;> simp_all [Directive.isBlockMarker]

theorem closing?_append {body : SegmentSequence} (inside : ∀ segment ∈ body, ¬ segment.Bounds)
    (rest : SegmentSequence) :
    closing? (body ++ rest) = (closing? rest).map (flatten body ++ ·) := by
  induction body with
  | nil => simp
  | cons segment body ih =>
    rw [List.forall_mem_cons] at inside
    rw [List.cons_append, closing?_plain inside.1, ih inside.2]
    simp [Function.comp_def, String.append_assoc]

theorem closing?_eq_some {page : SegmentSequence} {text : String} (found : closing? page = some text) :
    ∃ body stop after, page = body ++ stop :: after ∧ stop.Spells .blockEnd ∧
      (∀ segment ∈ body, ¬ segment.Bounds) ∧ flatten body = text := by
  induction page generalizing text with
  | nil => simp [closing?] at found
  | cons segment rest ih =>
    by_cases closes : segment.Spells .blockEnd
    · rw [closing?_end closes] at found
      exact ⟨[], segment, rest, rfl, closes, by simp, by simpa using found⟩
    · by_cases bounds : segment.Bounds
      · obtain ⟨name, opens⟩ | closes' := bounds
        · simp [closing?_start opens] at found
        · exact absurd closes' closes
      · rw [closing?_plain bounds, Option.map_eq_some_iff] at found
        obtain ⟨tail, found, rfl⟩ := found
        obtain ⟨body, stop, after, rfl, closes, inside, rfl⟩ := ih found
        exact ⟨segment :: body, stop, after, rfl, closes,
          List.forall_mem_cons.mpr ⟨bounds, inside⟩, by simp⟩

theorem committed?_start {segment : Segment} {name : String}
    (opens : segment.Spells (.blockStart name)) (rest : SegmentSequence) :
    committed? name (segment :: rest) = (committed? name rest).or (closing? rest) := by
  simp [committed?, Segment.directive?_eq_some_iff.mpr opens]

theorem committed?_other {segment : Segment} {name : String}
    (other : ¬ segment.Spells (.blockStart name)) (rest : SegmentSequence) :
    committed? name (segment :: rest) = committed? name rest := by
  rw [← Segment.directive?_eq_some_iff] at other
  simp [committed?, other]

theorem committed?_append {name : String} {body : SegmentSequence}
    (inside : ∀ segment ∈ body, ¬ segment.Bounds) (rest : SegmentSequence) :
    committed? name (body ++ rest) = committed? name rest := by
  induction body with
  | nil => rfl
  | cons segment body ih =>
    rw [List.forall_mem_cons] at inside
    rw [List.cons_append, committed?_other (fun opens => inside.1 opens.bounds_start), ih inside.2]

theorem committed?_eq_none_iff {name : String} {page : SegmentSequence} :
    committed? name page = none ↔ ∀ before body after, ¬ IsBlock page before name body after := by
  constructor
  · rintro absent before body after ⟨start, stop, rfl, opens, closes, inside⟩
    induction before with
    | nil =>
      rw [List.nil_append, committed?_start opens, Option.or_eq_none_iff,
        closing?_append inside, closing?_end closes] at absent
      simp at absent
    | cons segment before ih =>
      rw [List.cons_append, committed?, Option.or_eq_none_iff] at absent
      exact ih absent.1
  · intro absent
    induction page with
    | nil => rfl
    | cons segment rest ih =>
      have later : committed? name rest = none := by
        apply ih
        rintro before body after ⟨start, stop, rfl, block⟩
        exact absent (segment :: before) body after ⟨start, stop, rfl, block⟩
      rw [committed?, later, Option.none_or]
      split
      · next opens =>
        cases found : closing? rest with
        | none => rfl
        | some text =>
          obtain ⟨body, stop, after, rfl, closes, inside, -⟩ := closing?_eq_some found
          exact absurd ⟨segment, stop, rfl, Segment.directive?_eq_some_iff.mp opens, closes, inside⟩
            (absent [] body after)
      · rfl

theorem committed?_eq_some_iff {name text : String} {page : SegmentSequence} :
    committed? name page = some text ↔ Commits page name text := by
  constructor
  · intro found
    induction page with
    | nil => simp [committed?] at found
    | cons segment rest ih =>
      rw [committed?] at found
      cases later : committed? name rest with
      | some other =>
        simp only [later, Option.some_or, Option.some.injEq] at found
        obtain ⟨before, body, after, ⟨start, stop, rfl, block⟩, held, last⟩ := ih (found ▸ later)
        exact ⟨segment :: before, body, after, ⟨start, stop, rfl, block⟩, held, last⟩
      | none =>
        rw [later, Option.none_or] at found
        split at found
        · next opens =>
          obtain ⟨body, stop, after, rfl, closes, inside, held⟩ := closing?_eq_some found
          refine ⟨[], body, after, ⟨segment, stop, rfl, Segment.directive?_eq_some_iff.mp opens,
            closes, inside⟩, held, ?_⟩
          rw [committed?_append inside, committed?_other] at later
          · exact committed?_eq_none_iff.mp later
          · exact fun opens => Directive.noConfusion (opens.unique closes)
        · simp at found
  · rintro ⟨before, body, after, ⟨start, stop, rfl, opens, closes, inside⟩, rfl, last⟩
    induction before with
    | nil =>
      have later : committed? name (body ++ stop :: after) = none := by
        rw [committed?_append inside, committed?_other]
        · exact committed?_eq_none_iff.mpr last
        · exact fun opens => Directive.noConfusion (opens.unique closes)
      rw [List.nil_append, committed?_start opens, later, closing?_append inside,
        closing?_end closes]
      simp
    | cons segment before ih =>
      rw [List.cons_append, committed?, ih]
      rfl

section Walk

variable (blocks : BlockMap) (opened : Option OpenBlock) {segment : Segment} (rest : SegmentSequence)

theorem extractFrom_end (closes : segment.Spells .blockEnd) :
    extractFrom blocks opened (segment :: rest) =
      (extractFrom (OpenBlock.commit blocks opened) none rest).keep segment.zero := by
  simp [extractFrom, Segment.directive?_eq_some_iff.mpr closes]

theorem extractFrom_start {name : String} (opens : segment.Spells (.blockStart name)) :
    extractFrom blocks opened (segment :: rest) =
      ((extractFrom blocks (some ⟨name, ""⟩) rest).keep segment.zero).report
        (OpenBlock.abandon name opened) := by
  simp [extractFrom, Segment.directive?_eq_some_iff.mpr opens]

theorem extractFrom_plain (plain : ¬ segment.Bounds) :
    extractFrom blocks opened (segment :: rest) =
      (extractFrom blocks (OpenBlock.collect segment.value opened) rest).keep segment := by
  rw [Segment.bounds_iff] at plain
  rw [extractFrom]
  cases marker : segment.directive? with
  | none => rfl
  | some found => cases found <;> simp_all [Directive.isBlockMarker]

end Walk

/-- The text that a block left open gets when the rest of its page closes it. -/
def finished? (name : String) (opened : Option OpenBlock) (page : SegmentSequence) : Option String :=
  opened.bind fun block => if block.name = name then (closing? page).map (block.content ++ ·) else none

/-- What has been collected for a name is what the rest of the page commits, else what closes the
open block, else what was there before. -/
theorem get?_extractFrom (name : String) (blocks : BlockMap) (opened : Option OpenBlock)
    (page : SegmentSequence) : (extractFrom blocks opened page).blocks.get? name =
      (committed? name page).or ((finished? name opened page).or (blocks.get? name)) := by
  induction page generalizing blocks opened with
  | nil => cases opened <;> simp [extractFrom, committed?, finished?, closing?]
  | cons segment rest ih =>
    by_cases bounds : segment.Bounds
    · obtain ⟨started, opens⟩ | closes := bounds
      · have dropped : finished? name opened (segment :: rest) = none := by
          cases opened <;> simp [finished?, closing?_start opens]
        rw [extractFrom_start blocks opened rest opens, dropped, Option.none_or]
        change (extractFrom blocks (some ⟨started, ""⟩) rest).blocks.get? name = _
        rw [ih, ← Option.or_assoc]
        by_cases same : started = name
        · subst same
          simp [committed?_start opens, finished?]
        · have other : ¬ segment.Spells (.blockStart name) :=
            fun opens' => same (Directive.blockStart.inj (opens.unique opens'))
          simp [committed?_other other, finished?, same]
      · have other : ¬ segment.Spells (.blockStart name) :=
          fun opens => Directive.noConfusion (opens.unique closes)
        rw [extractFrom_end blocks opened rest closes, committed?_other other]
        change (extractFrom (OpenBlock.commit blocks opened) none rest).blocks.get? name = _
        rw [ih]
        congr 1
        cases opened with
        | none => simp [finished?, OpenBlock.commit]
        | some block =>
          by_cases same : block.name = name
          · simp [finished?, OpenBlock.commit, closing?_end closes, same]
          · simp [finished?, OpenBlock.commit, same, Ne.symm same]
    · rw [extractFrom_plain blocks opened rest bounds,
        committed?_other (fun opens => bounds opens.bounds_start)]
      change (extractFrom blocks (OpenBlock.collect segment.value opened) rest).blocks.get? name = _
      rw [ih]
      congr 2
      cases opened with
      | none => simp [finished?, OpenBlock.collect]
      | some block =>
        simp [finished?, OpenBlock.collect, closing?_plain bounds, Function.comp_def,
          String.append_assoc]

theorem get?_extractBlocks {page : SegmentSequence} {name text : String} :
    (extractBlocks page).blocks.get? name = some text ↔ Commits page name text := by
  rw [extractBlocks, get?_extractFrom, ← committed?_eq_some_iff]
  simp [finished?]

end BlockTemplates
