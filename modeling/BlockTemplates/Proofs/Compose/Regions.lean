import BlockTemplates.Proofs.Compose.Overlay

/-! Which positions of a page the given blocks take over, said of the page and not of a walk: a block
start overrides unless an earlier overriding start reaches it, and a start reaches everything up to
the next end marker. Main statement: `replaceBlocks_regions`. -/

namespace BlockTemplates

def SpellsAt (page : SegmentSequence) (position : Nat) (marker : Directive) : Prop :=
  ∃ segment, page[position]? = some segment ∧ segment.Spells marker

/-- The position comes after `start`, and no end marker stands between the two. -/
def Reaches (page : SegmentSequence) (start position : Nat) : Prop :=
  start < position ∧ ∀ between, start < between → between < position → ¬ SpellsAt page between .blockEnd

/-- The position holds the start of a given block, and no earlier one like it reaches it. -/
def Overriding (blocks : BlockMap) (page : SegmentSequence) (position : Nat) : Prop :=
  (∃ name, SpellsAt page position (.blockStart name) ∧ blocks.contains name = true) ∧
    ∀ earlier, earlier < position → Overriding blocks page earlier → ¬ Reaches page earlier position
termination_by position

/-- The position lies in the region of an overriding one. -/
def Suppressed (blocks : BlockMap) (page : SegmentSequence) (position : Nat) : Prop :=
  ∃ start, Overriding blocks page start ∧ Reaches page start position

/-- What a segment at a position becomes when the blocks are laid over its page. -/
structure ReplacedAt (blocks : BlockMap) (page : SegmentSequence) (position : Nat)
    (segment after : Segment) : Prop where
  overriding : Overriding blocks page position → ∃ name content,
    segment.Spells (.blockStart name) ∧ blocks.get? name = some content ∧ after = ⟨.dynamic, content⟩
  suppressed : Suppressed blocks page position → after = ⟨segment.kind, ""⟩
  marker : segment.Bounds → ¬ Overriding blocks page position → after = ⟨segment.kind, ""⟩
  other : ¬ segment.Bounds → ¬ Suppressed blocks page position → after = segment

section Positions

variable {blocks : BlockMap} {page : SegmentSequence} {position : Nat}

theorem overriding_iff :
    Overriding blocks page position ↔
      (∃ name, SpellsAt page position (.blockStart name) ∧ blocks.contains name = true) ∧
        ¬ Suppressed blocks page position := by
  rw [Overriding]
  refine and_congr_right fun _ => ⟨?_, ?_⟩
  · rintro apart ⟨start, overrides, reaches⟩
    exact apart start reaches.1 overrides reaches
  · intro shown earlier _ overrides reaches
    exact shown ⟨earlier, overrides, reaches⟩

theorem not_suppressed_zero : ¬ Suppressed blocks page 0 := by
  rintro ⟨start, -, before, -⟩
  exact Nat.not_lt_zero start before

theorem reaches_succ {start : Nat} :
    Reaches page start (position + 1) ↔
      start = position ∨ Reaches page start position ∧ ¬ SpellsAt page position .blockEnd := by
  constructor
  · rintro ⟨before, clear⟩
    by_cases here : start = position
    · exact .inl here
    · have earlier : start < position := by omega
      refine .inr ⟨⟨earlier, fun between above below => clear between above (by omega)⟩, ?_⟩
      exact clear position earlier (Nat.lt_succ_self position)
  · rintro (rfl | ⟨⟨before, clear⟩, here⟩)
    · exact ⟨Nat.lt_succ_self start, fun between above below => by omega⟩
    · refine ⟨by omega, fun between above below => ?_⟩
      by_cases last : between = position
      · exact last ▸ here
      · exact clear between above (by omega)

theorem suppressed_succ :
    Suppressed blocks page (position + 1) ↔ Overriding blocks page position ∨
      Suppressed blocks page position ∧ ¬ SpellsAt page position .blockEnd := by
  unfold Suppressed
  simp only [reaches_succ]
  constructor
  · rintro ⟨start, overrides, rfl | ⟨reaches, here⟩⟩
    · exact .inl overrides
    · exact .inr ⟨⟨start, overrides, reaches⟩, here⟩
  · rintro (overrides | ⟨⟨start, overrides, reaches⟩, here⟩)
    · exact ⟨position, overrides, .inl rfl⟩
    · exact ⟨start, overrides, .inr ⟨reaches, here⟩⟩

theorem spellsAt_iff {segment : Segment} {marker : Directive} (found : page[position]? = some segment) :
    SpellsAt page position marker ↔ segment.Spells marker := by
  constructor
  · rintro ⟨other, found', spells⟩
    rw [found] at found'
    exact Option.some.inj found' ▸ spells
  · exact fun spells => ⟨segment, found, spells⟩

theorem overriding_iff_of_start {segment : Segment} {name : String} (found : page[position]? = some segment)
    (opens : segment.Spells (.blockStart name)) :
    Overriding blocks page position ↔ blocks.contains name = true ∧ ¬ Suppressed blocks page position := by
  rw [overriding_iff]
  refine and_congr_left fun _ => ⟨?_, ?_⟩
  · rintro ⟨other, opens', held⟩
    have same := opens.unique ((spellsAt_iff found).mp opens')
    rwa [Directive.blockStart.inj same]
  · exact fun held => ⟨name, (spellsAt_iff found).mpr opens, held⟩

theorem not_overriding_of_other {segment : Segment} (found : page[position]? = some segment)
    (other : ∀ name, ¬ segment.Spells (.blockStart name)) : ¬ Overriding blocks page position := by
  rw [overriding_iff]
  rintro ⟨⟨name, opens, -⟩, -⟩
  exact other name ((spellsAt_iff found).mp opens)

end Positions

namespace ReplacedAt

variable {blocks : BlockMap} {page : SegmentSequence} {position : Nat} {segment : Segment}

theorem of_overriding {name content : String} (opens : segment.Spells (.blockStart name))
    (given : blocks.get? name = some content) (overrides : Overriding blocks page position) :
    ReplacedAt blocks page position segment (segment.replace content) where
  overriding _ := by
    refine ⟨name, content, opens, given, ?_⟩
    rw [Segment.replace, opens.1]
  suppressed hidden := absurd hidden (overriding_iff.mp overrides).2
  marker _ apart := absurd overrides apart
  other plain _ := absurd opens.bounds_start plain

theorem of_suppressed (hidden : Suppressed blocks page position) :
    ReplacedAt blocks page position segment segment.zero where
  overriding overrides := absurd hidden (overriding_iff.mp overrides).2
  suppressed _ := rfl
  marker _ _ := rfl
  other _ shown := absurd hidden shown

theorem of_marker (bounds : segment.Bounds) (apart : ¬ Overriding blocks page position) :
    ReplacedAt blocks page position segment segment.zero where
  overriding overrides := absurd overrides apart
  suppressed _ := rfl
  marker _ _ := rfl
  other plain _ := absurd bounds plain

theorem of_other (found : page[position]? = some segment) (plain : ¬ segment.Bounds)
    (shown : ¬ Suppressed blocks page position) : ReplacedAt blocks page position segment segment where
  overriding overrides :=
    absurd overrides (not_overriding_of_other found (Segment.not_start_of_plain plain))
  suppressed hidden := absurd hidden shown
  marker bounds _ := absurd bounds plain
  other _ _ := rfl

theorem unique {other : BlockMap} {after after' : Segment}
    (same : ∀ position, Overriding blocks page position ↔ Overriding other page position)
    (apart : ¬ Overriding blocks page position) (first : ReplacedAt blocks page position segment after)
    (second : ReplacedAt other page position segment after') : after = after' := by
  have hidden_iff : Suppressed blocks page position ↔ Suppressed other page position := by
    simp only [Suppressed, same]
  by_cases hidden : Suppressed blocks page position
  · rw [first.suppressed hidden, second.suppressed (hidden_iff.mp hidden)]
  · by_cases bounds : segment.Bounds
    · rw [first.marker bounds apart, second.marker bounds (mt (same position).mpr apart)]
    · rw [first.other bounds hidden, second.other bounds (mt hidden_iff.mpr hidden)]

end ReplacedAt

section Walk

variable {blocks : BlockMap} {page : SegmentSequence} {suppressing : Bool}

/-- One step of the walk, which suppresses exactly the positions in a region and reports exactly the
overriding ones. -/
theorem replaceFrom_step {position : Nat} {segment : Segment} (found : page[position]? = some segment)
    (state : suppressing = true ↔ Suppressed blocks page position) (rest : SegmentSequence) :
    ∃ after next reported, replaceFrom blocks suppressing (segment :: rest) =
        ⟨after :: (replaceFrom blocks next rest).sequence,
          (reported.map Event.overridden).toList ++ (replaceFrom blocks next rest).events⟩ ∧
      ReplacedAt blocks page position segment after ∧
      (∀ name, reported = some name ↔
        Overriding blocks page position ∧ segment.Spells (.blockStart name)) ∧
      (next = true ↔ Suppressed blocks page (position + 1)) := by
  have silent (apart : ¬ Overriding blocks page position) (name : String) :
      none = some name ↔ Overriding blocks page position ∧ segment.Spells (.blockStart name) :=
    iff_of_false (fun same => nomatch same) fun overrides => apart overrides.1
  cases suppressing with
  | true =>
    have hidden := state.mp rfl
    have apart : ¬ Overriding blocks page position := fun overrides =>
      (overriding_iff.mp overrides).2 hidden
    rw [replaceFrom_suppressed]
    refine ⟨_, _, none, rfl, .of_suppressed hidden, silent apart, ?_⟩
    simp [suppressed_succ, apart, hidden, spellsAt_iff found, Segment.directive?_eq_some_iff]
  | false =>
    have shown : ¬ Suppressed blocks page position := fun hidden => Bool.noConfusion (state.mpr hidden)
    by_cases bounds : segment.Bounds
    · obtain ⟨name, opens⟩ | closes := bounds
      · have overrides_iff : Overriding blocks page position ↔ _ := overriding_iff_of_start found opens
        cases given : blocks.get? name with
        | some content =>
          have overrides : Overriding blocks page position :=
            overrides_iff.mpr ⟨by simp [Dict.contains, given], shown⟩
          rw [replaceFrom_overridden rest opens given]
          refine ⟨_, true, some name, rfl, .of_overriding opens given overrides, fun other => ?_, ?_⟩
          · constructor
            · intro same
              exact ⟨overrides, Option.some.inj same ▸ opens⟩
            · intro started
              exact congrArg some (Directive.blockStart.inj (opens.unique started.2))
          · simp [suppressed_succ, overrides]
        | none =>
          have apart : ¬ Overriding blocks page position := by
            rw [overrides_iff]
            simp [Dict.contains, given]
          rw [replaceFrom_kept rest opens given]
          refine ⟨_, false, none, rfl, .of_marker opens.bounds_start apart, silent apart, ?_⟩
          simp [suppressed_succ, apart, shown]
      · have apart : ¬ Overriding blocks page position := not_overriding_of_other found closes.not_start
        rw [replaceFrom_end rest closes]
        refine ⟨_, false, none, rfl, .of_marker (.inr closes) apart, silent apart, ?_⟩
        simp [suppressed_succ, apart, shown]
    · have apart : ¬ Overriding blocks page position :=
        not_overriding_of_other found (Segment.not_start_of_plain bounds)
      rw [replaceFrom_plain rest bounds]
      refine ⟨_, false, none, rfl, .of_other found bounds shown, silent apart, ?_⟩
      simp [suppressed_succ, apart, shown]

theorem replaceFrom_replacedAt {position : Nat} {rest : SegmentSequence} (walked : page.drop position = rest)
    (state : suppressing = true ↔ Suppressed blocks page position) :
    (replaceFrom blocks suppressing rest).sequence.length = rest.length ∧
      ∀ offset segment, rest[offset]? = some segment →
        ∃ after, (replaceFrom blocks suppressing rest).sequence[offset]? = some after ∧
          ReplacedAt blocks page (position + offset) segment after := by
  induction rest generalizing position suppressing with
  | nil => simp [replaceFrom]
  | cons first rest ih =>
    have found : page[position]? = some first := by
      rw [← List.head?_drop, walked]
      rfl
    have walked' : page.drop (position + 1) = rest := by
      rw [← List.tail_drop, walked]
      rfl
    obtain ⟨after, next, reported, step, replaced, -, state'⟩ := replaceFrom_step found state rest
    obtain ⟨length, later⟩ := ih walked' state'
    rw [step]
    refine ⟨by simp [length], ?_⟩
    intro offset segment here
    cases offset with
    | zero =>
      obtain rfl : first = segment := Option.some.inj here
      exact ⟨after, rfl, replaced⟩
    | succ offset =>
      have next_position : position + 1 + offset = position + (offset + 1) := by omega
      rw [← next_position]
      exact later offset segment here

end Walk

theorem replaceFrom_congr {blocks other : BlockMap} {page : SegmentSequence}
    (same : ∀ name ∈ startedNames page, other.get? name = blocks.get? name) (suppressing : Bool) :
    replaceFrom other suppressing page = replaceFrom blocks suppressing page := by
  induction page generalizing suppressing with
  | nil => rfl
  | cons segment rest ih =>
    have later : ∀ name ∈ startedNames rest, other.get? name = blocks.get? name := by
      intro name started
      obtain ⟨start, found, opens⟩ := mem_startedNames.mp started
      exact same name (mem_startedNames.mpr ⟨start, List.mem_cons_of_mem _ found, opens⟩)
    have ih := ih later
    cases suppressing with
    | true => rw [replaceFrom_suppressed, replaceFrom_suppressed, ih]
    | false =>
      by_cases bounds : segment.Bounds
      · obtain ⟨name, opens⟩ | closes := bounds
        · have held := same name (mem_startedNames.mpr ⟨segment, List.mem_cons_self, opens⟩)
          cases given : blocks.get? name with
          | some content =>
            rw [given] at held
            rw [replaceFrom_overridden rest opens given, replaceFrom_overridden rest opens held, ih]
          | none =>
            rw [given] at held
            rw [replaceFrom_kept rest opens given, replaceFrom_kept rest opens held, ih]
        · rw [replaceFrom_end rest closes, replaceFrom_end rest closes, ih]
      · rw [replaceFrom_plain rest bounds, replaceFrom_plain rest bounds, ih]

theorem overriding_congr {blocks other : BlockMap} {page : SegmentSequence}
    (same : ∀ name ∈ startedNames page, other.contains name = blocks.contains name) (position : Nat) :
    Overriding blocks page position ↔ Overriding other page position := by
  induction position using Nat.strongRecOn with
  | ind position ih =>
    rw [Overriding, Overriding]
    refine and_congr (exists_congr fun name => and_congr_right ?_) (forall_congr' fun earlier => ?_)
    · rintro ⟨segment, found, opens⟩
      rw [same name (mem_startedNames.mpr ⟨segment, List.mem_of_getElem? found, opens⟩)]
    · exact forall_congr' fun before => imp_congr_left (ih earlier before)

theorem replaceBlocks_replacedAt (blocks : BlockMap) (page : SegmentSequence) :
    (replaceBlocks blocks page).sequence.length = page.length ∧
      ∀ position segment, page[position]? = some segment →
        ∃ after, (replaceBlocks blocks page).sequence[position]? = some after ∧
          ReplacedAt blocks page position segment after := by
  have state : false = true ↔ Suppressed blocks page 0 := by simp [not_suppressed_zero]
  have walked := replaceFrom_replacedAt (List.drop_zero (l := page)) state
  unfold replaceBlocks
  simpa only [Nat.zero_add] using walked

/-- A page keeps its length when blocks are laid over it. The overriding positions hold the given
content as evaluated text, the positions that these reach and all other markers of blocks hold
nothing, and the rest is as it was. So it only matters what is given for the names that the page
starts, and what is given for the same names makes a difference at the overriding positions alone. -/
theorem replaceBlocks_regions (blocks : BlockMap) (page : SegmentSequence) :
    (replaceBlocks blocks page).sequence.length = page.length ∧
      (∀ position segment, page[position]? = some segment →
        ∃ after, (replaceBlocks blocks page).sequence[position]? = some after ∧
          ReplacedAt blocks page position segment after) ∧
      (∀ other : BlockMap, (∀ name ∈ startedNames page, other.get? name = blocks.get? name) →
        replaceBlocks other page = replaceBlocks blocks page) ∧
      ∀ other : BlockMap, (∀ name ∈ startedNames page, other.contains name = blocks.contains name) →
        ∀ position, ¬ Overriding blocks page position →
          (replaceBlocks other page).sequence[position]? =
            (replaceBlocks blocks page).sequence[position]? := by
  obtain ⟨length, replaced⟩ := replaceBlocks_replacedAt blocks page
  refine ⟨length, replaced, fun other same => replaceFrom_congr same false, ?_⟩
  intro other same position apart
  obtain ⟨length', replaced'⟩ := replaceBlocks_replacedAt other page
  cases found : page[position]? with
  | none =>
    have beyond : page.length ≤ position := List.getElem?_eq_none_iff.mp found
    rw [List.getElem?_eq_none (by omega), List.getElem?_eq_none (by omega)]
  | some segment =>
    obtain ⟨after, shown, first⟩ := replaced position segment found
    obtain ⟨after', shown', second⟩ := replaced' position segment found
    rw [shown, shown', first.unique (overriding_congr same) apart second]

def nestedPage : SegmentSequence :=
  [.dynamic (some "\x7b\x7b main \x7d\x7d"), .dynamic (some "\x7b\x7b aside \x7d\x7d"), .static "own",
    .dynamic (some "\x7b\x7b end \x7d\x7d"), .static "after", .dynamic (some "\x7b\x7b aside \x7d\x7d")]

/-- Blocks with both names. The content of `main` spells an end marker. -/
def nestedBlocks (aside : String) : BlockMap :=
  .ofList [("main", "\x7b\x7b end \x7d\x7d"), ("aside", aside)]

theorem replaceBlocks_regions_nested :
    Overriding (nestedBlocks "A") nestedPage 0 ∧ Suppressed (nestedBlocks "A") nestedPage 1 ∧
      (replaceBlocks (nestedBlocks "A") nestedPage).sequence[1]? = some ⟨.dynamic, ""⟩ ∧
      replaceBlocks ((nestedBlocks "A").insert "foot" "F") nestedPage =
        replaceBlocks (nestedBlocks "A") nestedPage ∧
      (replaceBlocks (nestedBlocks "B") nestedPage).sequence[1]? =
        (replaceBlocks (nestedBlocks "A") nestedPage).sequence[1]? := by
  obtain ⟨-, replaced, congr, keys⟩ := replaceBlocks_regions (nestedBlocks "A") nestedPage
  have opens : SpellsAt nestedPage 0 (.blockStart "main") := ⟨_, rfl, rfl, by decide +kernel⟩
  have overrides : Overriding (nestedBlocks "A") nestedPage 0 :=
    overriding_iff.mpr ⟨⟨"main", opens, by decide +kernel⟩, not_suppressed_zero⟩
  have hidden : Suppressed (nestedBlocks "A") nestedPage 1 := suppressed_succ.mpr (.inl overrides)
  have apart : ¬ Overriding (nestedBlocks "A") nestedPage 1 := fun again =>
    (overriding_iff.mp again).2 hidden
  obtain ⟨after, shown, there⟩ := replaced 1 _ rfl
  refine ⟨overrides, hidden, ?_, congr _ (by decide +kernel), keys _ (by decide +kernel) 1 apart⟩
  rw [shown, there.suppressed hidden]
  rfl

end BlockTemplates
