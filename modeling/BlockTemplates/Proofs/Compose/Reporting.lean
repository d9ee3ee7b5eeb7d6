import BlockTemplates.Proofs.Compose.Fates
import BlockTemplates.Proofs.Compose.Inheritance
import BlockTemplates.Proofs.Compose.Regions

/-! What a render reports, said of its pages. The reports tell which stages have been reached, which
blocks the page has dropped and which positions of the base have been taken over; the last stage is
reported exactly when there is a text. Main statement: `render_reported`. -/

namespace BlockTemplates

structure LogLine where
  level : EventLevel
  message : String
  details : List (String × String)
  deriving Repr, DecidableEq

def Event.line (event : Event) : LogLine := ⟨event.level, event.message, event.fields⟩

namespace LogLine

def stage (name : String) : LogLine := ⟨.trace, "render state", [("state", name)]⟩

def inheritance (base : String) : LogLine :=
  ⟨.debug, "resolving template inheritance", [("base", base)]⟩

def override (block : String) : LogLine := ⟨.trace, "block overridden by child", [("block", block)]⟩

end LogLine

/-- `starts` are the overriding positions of a page, in order, with the blocks that they start. -/
structure OverridingStarts (blocks : BlockMap) (page : SegmentSequence) (starts : List (Nat × String)) :
    Prop where
  ordered : starts.Pairwise fun start later => start.1 < later.1
  members : ∀ position name, (position, name) ∈ starts ↔
    Overriding blocks page position ∧ SpellsAt page position (.blockStart name)

def Produces {δ : Type} (lookup : Lookup δ) (name : String) (data : δ) (page : SegmentSequence) : Prop :=
  ∃ producer, lookup name = some producer ∧ producer data = .ok page

/-- The lines about the blocks that a page starts and does not commit. -/
def dropLines (page : SegmentSequence) : List LogLine :=
  ((fates page).filterMap Fate.report?).map Event.line

/-- The lines about a page that extends `base`, before the base is looked up. -/
def extendLines (page : SegmentSequence) (base : String) : List LogLine :=
  [.stage "directive_scan", .stage "extend_resolve", .inheritance base] ++ dropLines page

/-- The log of the render of a named page. -/
inductive Logged {δ : Type} (lookup : Lookup δ) (name : String) (data : δ) : List LogLine → Prop
  | unproduced (none : ∀ page, ¬ Produces lookup name data page) : Logged lookup name data []
  | plain (page : SegmentSequence) (produced : Produces lookup name data page)
      (alone : ∀ segment ∈ page, ∀ base, ¬ segment.Spells (.extend base)) :
      Logged lookup name data [.stage "directive_scan", .stage "flatten", .stage "done"]
  | baseless (page : SegmentSequence) (base : String) (produced : Produces lookup name data page)
      (extended : Extends page base) (none : ∀ under, ¬ Produces lookup base data under) :
      Logged lookup name data (extendLines page base)
  | composed (page : SegmentSequence) (base : String) (under : SegmentSequence) (blocks : BlockMap)
      (starts : List (Nat × String)) (produced : Produces lookup name data page)
      (extended : Extends page base) (baseProduced : Produces lookup base data under)
      (collected : ∀ block text, blocks.get? block = some text ↔ Commits page block text)
      (overridden : OverridingStarts blocks under starts) :
      Logged lookup name data
        (extendLines page base ++ starts.map (fun start => .override start.2) ++ [.stage "done"])

section Starts

variable {blocks : BlockMap} {page : SegmentSequence} {starts : List (Nat × String)}

theorem OverridingStarts.unique {other : List (Nat × String)} (first : OverridingStarts blocks page starts)
    (second : OverridingStarts blocks page other) : starts = other := by
  have irrefl : Std.Irrefl fun a b : Nat × String => a.1 < b.1 := ⟨fun a => Nat.lt_irrefl a.1⟩
  have asymm : Std.Asymm fun a b : Nat × String => a.1 < b.1 := ⟨fun a b => Nat.lt_asymm⟩
  refine List.Pairwise.eq_of_mem_iff first.ordered second.ordered fun start => ?_
  rw [first.members, second.members]

/-- By induction on what the walk has still before it; the walk reports the overriding positions that
it has not passed yet. -/
theorem exists_starts_of_replaceFrom {position : Nat} {rest : SegmentSequence} {suppressing : Bool}
    (walked : page.drop position = rest) (state : suppressing = true ↔ Suppressed blocks page position) :
    ∃ starts : List (Nat × String),
      (replaceFrom blocks suppressing rest).events = starts.map (fun start => .overridden start.2) ∧
      starts.Pairwise (fun start later => start.1 < later.1) ∧
      ∀ there name, (there, name) ∈ starts ↔ position ≤ there ∧
        Overriding blocks page there ∧ SpellsAt page there (.blockStart name) := by
  induction rest generalizing position suppressing with
  | nil =>
    refine ⟨[], rfl, .nil, fun there name => iff_of_false List.not_mem_nil ?_⟩
    rintro ⟨later, -, segment, found, -⟩
    have ended := List.drop_eq_nil_iff.mp walked
    rw [List.getElem?_eq_none (by omega)] at found
    cases found
  | cons segment rest ih =>
    have found : page[position]? = some segment := by
      rw [← List.head?_drop, walked]
      rfl
    have walked' : page.drop (position + 1) = rest := by
      rw [← List.tail_drop, walked]
      rfl
    obtain ⟨after, next, reported, step, -, reports, state'⟩ := replaceFrom_step found state rest
    obtain ⟨starts, events, ordered, members⟩ := ih walked' state'
    refine ⟨(reported.map fun name => (position, name)).toList ++ starts, ?_, ?_, fun there name => ?_⟩
    · rw [step, List.map_append, events]
      cases reported <;> rfl
    · refine List.pairwise_append.mpr ⟨by cases reported <;> simp, ordered, fun start here later inside => ?_⟩
      have beyond := ((members later.1 later.2).mp inside).1
      obtain ⟨name, -, rfl⟩ : ∃ name, reported = some name ∧ (position, name) = start := by
        simpa using here
      exact beyond
    · have here : (there, name) ∈ (reported.map fun name => (position, name)).toList ↔ there = position ∧
          Overriding blocks page there ∧ SpellsAt page there (.blockStart name) := by
        rw [Option.mem_toList, Option.map_eq_some_iff]
        constructor
        · rintro ⟨other, same, pair⟩
          obtain ⟨rfl, rfl⟩ := Prod.mk.inj pair
          rw [spellsAt_iff found]
          exact ⟨rfl, (reports other).mp same⟩
        · rintro ⟨rfl, overrides, opens⟩
          exact ⟨name, (reports name).mpr ⟨overrides, (spellsAt_iff found).mp opens⟩, rfl⟩
      rw [List.mem_append, here, members, ← or_and_right]
      refine and_congr_left fun _ => ?_
      omega

theorem exists_overridingStarts (blocks : BlockMap) (page : SegmentSequence) :
    ∃ starts, OverridingStarts blocks page starts ∧
      (replaceBlocks blocks page).events = starts.map (fun start => .overridden start.2) := by
  have state : false = true ↔ Suppressed blocks page 0 := by simp [not_suppressed_zero]
  obtain ⟨starts, events, ordered, members⟩ :=
    exists_starts_of_replaceFrom (List.drop_zero (l := page)) state
  simp only [Nat.zero_le, true_and] at members
  exact ⟨starts, ⟨ordered, members⟩, events⟩

end Starts

section Lines

theorem map_line_events (page : SegmentSequence) : (extractBlocks page).events.map Event.line = dropLines page := by
  obtain ⟨events, -⟩ := extractFrom_fates .empty none page
  exact congrArg _ events

theorem Event.line_eq_done_iff {event : Event} : event.line = .stage "done" ↔ event = .reached .done := by
  cases event with
  | reached stage => cases stage <;> simp [Event.line, LogLine.stage, Event.level, Event.message, Event.fields,
      RenderStage.name]
  | _ => simp [Event.line, LogLine.stage, Event.level, Event.message, Event.fields]

theorem Event.line_eq_override_iff {event : Event} {block : String} :
    event.line = .override block ↔ event = .overridden block := by
  cases event <;> simp [Event.line, LogLine.override, Event.level, Event.message, Event.fields]

/-- A line that neither ends a log nor tells of a block that is taken over. -/
def LogLine.Passing (line : LogLine) : Prop := line ≠ .stage "done" ∧ ∀ block, line ≠ .override block

theorem Event.passing_line {event : Event} (unfinished : event ≠ .reached .done)
    (other : ∀ block, event ≠ .overridden block) : event.line.Passing :=
  ⟨mt line_eq_done_iff.mp unfinished, fun block => mt line_eq_override_iff.mp (other block)⟩

theorem passing_of_mem_dropLines {page : SegmentSequence} {line : LogLine} (found : line ∈ dropLines page) :
    line.Passing := by
  obtain ⟨event, reported, rfl⟩ := List.mem_map.mp found
  obtain ⟨fate, -, reports⟩ := List.mem_filterMap.mp reported
  cases fate with
  | committed name content => cases reports
  | abandoned name opened =>
    obtain rfl := Option.some.inj reports
    exact Event.passing_line nofun nofun
  | unterminated name =>
    obtain rfl := Option.some.inj reports
    exact Event.passing_line nofun nofun

theorem passing_of_mem_extendLines {page : SegmentSequence} {base : String} {line : LogLine}
    (found : line ∈ extendLines page base) : line.Passing := by
  rcases List.mem_append.mp found with first | dropped
  · have begun : line ∈ [Event.reached .directiveScan, .reached .extendResolve, .inherits base].map Event.line := first
    obtain ⟨event, member, rfl⟩ := List.mem_map.mp begun
    simp only [List.mem_cons, List.not_mem_nil, or_false] at member
    rcases member with rfl | rfl | rfl <;> exact Event.passing_line nofun nofun
  · exact passing_of_mem_dropLines dropped

end Lines

section Renders

variable {δ : Type} {lookup : Lookup δ} {name base : String} {data : δ} {page under : SegmentSequence}
  {failure : Failure}

theorem produces_iff (role : TemplateRole) :
    Produces lookup name data page ↔ produce lookup name role data = .ok page := by
  unfold Produces produce
  cases lookup name <;> simp

theorem not_produces_of_error {role : TemplateRole} (failed : produce lookup name role data = .error failure)
    (page : SegmentSequence) : ¬ Produces lookup name data page := by
  rw [produces_iff role, failed]
  exact nofun

theorem exists_error_of_not_produces (role : TemplateRole) (none : ∀ page, ¬ Produces lookup name data page) :
    ∃ failure, produce lookup name role data = .error failure := by
  cases made : produce lookup name role data with
  | error failure => exact ⟨failure, rfl⟩
  | ok page => exact absurd ((produces_iff role).mpr made) (none page)

theorem render_of_error (failed : produce lookup name .template data = .error failure) :
    render lookup name data = ⟨.error failure, []⟩ := by
  unfold render
  rw [failed]

theorem render_of_alone (produced : produce lookup name .template data = .ok page)
    (alone : extendTarget? page = none) :
    render lookup name data = ⟨.ok (SegmentSequence.flatten (stripBlockMarkers page)),
      [.reached .directiveScan, .reached .flatten, .reached .done]⟩ := by
  simp [render, produced, alone, flattenPage, Rendered.report]

theorem render_of_baseless (produced : produce lookup name .template data = .ok page)
    (extended : extendTarget? page = some base)
    (failed : produce lookup base .extendTarget data = .error failure) :
    render lookup name data = ⟨.error failure,
      [.reached .directiveScan, .reached .extendResolve, .inherits base] ++ (extractBlocks page).events⟩ := by
  simp [render, produced, extended, extendPage, failed, Rendered.report]

theorem render_of_composed (produced : produce lookup name .template data = .ok page)
    (extended : extendTarget? page = some base)
    (baseProduced : produce lookup base .extendTarget data = .ok under) :
    let replacement := replaceBlocks (extractBlocks page).blocks under
    render lookup name data = ⟨.ok (SegmentSequence.flatten replacement.sequence),
      [.reached .directiveScan, .reached .extendResolve, .inherits base] ++ (extractBlocks page).events ++
        replacement.events ++ [.reached .done]⟩ := by
  simp [render, produced, extended, extendPage, baseProduced, Rendered.report]

theorem map_line_composed (page : SegmentSequence) (base : String) {events : List Event}
    {starts : List (Nat × String)} (reported : events = starts.map fun start => .overridden start.2) :
    ([Event.reached .directiveScan, .reached .extendResolve, .inherits base] ++ (extractBlocks page).events ++
        events ++ [Event.reached .done]).map Event.line =
      extendLines page base ++ starts.map (fun start => .override start.2) ++ [.stage "done"] := by
  rw [List.map_append, List.map_append, List.map_append, map_line_events, reported, List.map_map]
  rfl

theorem logged_lines (lookup : Lookup δ) (name : String) (data : δ) :
    Logged lookup name data ((render lookup name data).events.map Event.line) := by
  cases produced : produce lookup name .template data with
  | error failure =>
    rw [render_of_error produced]
    exact .unproduced (not_produces_of_error produced)
  | ok page =>
    have made := (produces_iff .template).mpr produced
    cases target : extendTarget? page with
    | none =>
      rw [render_of_alone produced target]
      exact .plain page made (extendTarget?_eq_none_iff.mp target)
    | some base =>
      have extended := extendTarget?_eq_some_iff.mp target
      cases baseProduced : produce lookup base .extendTarget data with
      | error failure =>
        rw [render_of_baseless produced target baseProduced, List.map_append, map_line_events]
        exact .baseless page base made extended (not_produces_of_error baseProduced)
      | ok under =>
        obtain ⟨starts, overridden, reported⟩ := exists_overridingStarts (extractBlocks page).blocks under
        rw [render_of_composed produced target baseProduced, map_line_composed page base reported]
        exact .composed page base under _ starts made extended ((produces_iff .extendTarget).mpr baseProduced)
          (fun _ _ => get?_extractBlocks) overridden

theorem lines_eq_of_logged {log : List LogLine} (logged : Logged lookup name data log) :
    (render lookup name data).events.map Event.line = log := by
  cases logged with
  | unproduced none =>
    obtain ⟨failure, failed⟩ := exists_error_of_not_produces .template none
    rw [render_of_error failed]
    rfl
  | plain page produced alone =>
    rw [render_of_alone ((produces_iff .template).mp produced) (extendTarget?_eq_none_iff.mpr alone)]
    rfl
  | baseless page base produced extended none =>
    obtain ⟨failure, failed⟩ := exists_error_of_not_produces .extendTarget none
    rw [render_of_baseless ((produces_iff .template).mp produced) (extendTarget?_eq_some_iff.mpr extended)
      failed, List.map_append, map_line_events]
    rfl
  | composed page base under blocks starts produced extended baseProduced collected overridden =>
    have same : blocks = (extractBlocks page).blocks := Dict.ext_get? fun block =>
      Option.ext fun text => (collected block text).trans get?_extractBlocks.symm
    obtain ⟨starts', overridden', reported⟩ := exists_overridingStarts (extractBlocks page).blocks under
    rw [same] at overridden
    obtain rfl := overridden.unique overridden'
    rw [render_of_composed ((produces_iff .template).mp produced) (extendTarget?_eq_some_iff.mpr extended)
      ((produces_iff .extendTarget).mp baseProduced), map_line_composed page base reported]

theorem finished_or_failed (lookup : Lookup δ) (name : String) (data : δ) :
    let rendered := render lookup name data
    (∃ failure, rendered.result = .error failure ∧ ∀ line ∈ rendered.events.map Event.line, line.Passing) ∨
      ∃ text before, rendered.result = .ok text ∧
        rendered.events.map Event.line = before ++ [.stage "done"] ∧ .stage "done" ∉ before := by
  dsimp only
  cases produced : produce lookup name .template data with
  | error failure =>
    rw [render_of_error produced]
    exact .inl ⟨failure, rfl, List.forall_mem_nil _⟩
  | ok page =>
    cases target : extendTarget? page with
    | none =>
      rw [render_of_alone produced target]
      exact .inr ⟨_, [.stage "directive_scan", .stage "flatten"], rfl, rfl, by decide⟩
    | some base =>
      cases baseProduced : produce lookup base .extendTarget data with
      | error failure =>
        rw [render_of_baseless produced target baseProduced, List.map_append, map_line_events]
        exact .inl ⟨failure, rfl, fun _ => passing_of_mem_extendLines⟩
      | ok under =>
        obtain ⟨starts, -, reported⟩ := exists_overridingStarts (extractBlocks page).blocks under
        rw [render_of_composed produced target baseProduced, map_line_composed page base reported]
        refine .inr ⟨_, _, rfl, rfl, fun found => ?_⟩
        rcases List.mem_append.mp found with first | overridden
        · exact (passing_of_mem_extendLines first).1 rfl
        · obtain ⟨start, -, same⟩ := List.mem_map.mp overridden
          exact absurd same (by simp [LogLine.override, LogLine.stage])

end Renders

/-- The log of a render is the one that the named page, its base and the positions that are taken over
there give. The last stage is logged exactly when there is a text, once and as the last line, and a
render that fails logs no block that is taken over. -/
theorem render_reported {δ : Type} (lookup : Lookup δ) (name : String) (data : δ) :
    let rendered := render lookup name data
    let lines := rendered.events.map Event.line
    (∀ log, lines = log ↔ Logged lookup name data log) ∧
      (LogLine.stage "done" ∈ lines ↔ ∃ text, rendered.result = .ok text) ∧
      (LogLine.stage "done" ∈ lines →
        ∃ before, lines = before ++ [.stage "done"] ∧ .stage "done" ∉ before) ∧
      ∀ failure block, rendered.result = .error failure → LogLine.override block ∉ lines := by
  dsimp only
  refine ⟨fun log => ⟨?_, lines_eq_of_logged⟩, ?_⟩
  · rintro rfl
    exact logged_lines lookup name data
  · rcases finished_or_failed lookup name data with ⟨failure, failed, passing⟩ | ⟨text, before, made, lines, fresh⟩
    · have unfinished : LogLine.stage "done" ∉ (render lookup name data).events.map Event.line :=
        fun found => (passing _ found).1 rfl
      refine ⟨iff_of_false unfinished ?_, fun found => absurd found unfinished, ?_⟩
      · rintro ⟨text, made⟩
        rw [failed] at made
        cases made
      · exact fun _ block _ found => (passing _ found).2 block rfl
    · have finished : LogLine.stage "done" ∈ (render lookup name data).events.map Event.line := by
        rw [lines]
        exact List.mem_append_right _ (List.mem_singleton_self _)
      refine ⟨iff_of_true finished ⟨text, made⟩, fun _ => ⟨before, lines, fresh⟩, fun failure _ failed => ?_⟩
      rw [made] at failed
      cases failed

/-- A site of a page that leaves one block open and commits another, and a base that takes over the
committed block twice. -/
def reportingSite : Lookup Unit := fun name =>
  if name = "home" then some fun _ => .ok
    [.dynamic (some "\x7b\x7b extend base \x7d\x7d"), .dynamic (some "\x7b\x7b draft \x7d\x7d"),
      .dynamic (some "\x7b\x7b title \x7d\x7d"), .static "Home", .dynamic (some "\x7b\x7b end \x7d\x7d")]
  else if name = "base" then some fun _ => .ok
    [.dynamic (some "\x7b\x7b title \x7d\x7d"), .dynamic (some "\x7b\x7b end \x7d\x7d"), .static " - ",
      .dynamic (some "\x7b\x7b draft \x7d\x7d"), .dynamic (some "\x7b\x7b end \x7d\x7d"),
      .dynamic (some "\x7b\x7b title \x7d\x7d"), .dynamic (some "\x7b\x7b end \x7d\x7d")]
  else none

theorem render_reported_twice :
    Logged reportingSite "home" ()
        [.stage "directive_scan", .stage "extend_resolve", .inheritance "base",
          ⟨.trace, "block opened before the previous one was closed", [("abandoned", "draft"), ("opened", "title")]⟩,
          .override "title", .override "title", .stage "done"] ∧
      ∃ text, (render reportingSite "home" ()).result = .ok text := by
  obtain ⟨logged, ended, -⟩ := render_reported reportingSite "home" ()
  exact ⟨(logged _).mp (by decide +kernel), ended.mp (by decide +kernel)⟩

end BlockTemplates
