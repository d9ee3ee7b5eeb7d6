import BlockTemplates.Proofs.Compose.Inheritance
import Mathlib.Data.List.Basic

/-! Blocks that only say again what a page says itself. Laid over the page they change none of its
text, and so a page that gives its base nothing new renders as the base does. Main statement:
`replaceBlocks_restated`. -/

namespace BlockTemplates

open SegmentSequence (flatten)

/-- Each block start of `page` that `blocks` has an entry for is closed by the next marker of a
block, and the entry is the text between the two. -/
def Restates (blocks : BlockMap) (page : SegmentSequence) : Prop :=
  ∀ before start after name content, page = before ++ start :: after →
    start.Spells (.blockStart name) → blocks.get? name = some content →
      ∃ body back, IsBlock page before name body back ∧ flatten body = content

section Restated

variable {blocks : BlockMap} {page rest : SegmentSequence}

theorem Restates.of_append {front : SegmentSequence} (restates : Restates blocks (front ++ page)) :
    Restates blocks page := by
  rintro before start after name content rfl opens given
  have whole : front ++ (before ++ start :: after) = (front ++ before) ++ start :: after :=
    (List.append_assoc _ _ _).symm
  obtain ⟨body, back, ⟨start', stop, same, opens', closes, inside⟩, held⟩ :=
    restates (front ++ before) start after name content whole opens given
  rw [List.append_assoc] at same
  exact ⟨body, back, ⟨start', stop, List.append_cancel_left same, opens', closes, inside⟩, held⟩

theorem Restates.tail {segment : Segment} (restates : Restates blocks (segment :: rest)) :
    Restates blocks rest := by
  have whole : Restates blocks ([segment] ++ rest) := restates
  exact whole.of_append

theorem Restates.closing?_eq {start : Segment} {name content : String}
    (restates : Restates blocks (start :: rest)) (opens : start.Spells (.blockStart name))
    (given : blocks.get? name = some content) : closing? rest = some content := by
  obtain ⟨body, back, ⟨start', stop, same, -, closes, inside⟩, rfl⟩ :=
    restates [] start rest name content rfl opens given
  obtain ⟨-, rfl⟩ := List.cons.inj same
  rw [closing?_append inside, closing?_end closes]
  simp

private theorem plain_of_closing? {region : SegmentSequence} {text : String}
    (unclosed : ∀ segment ∈ region, ¬ segment.Spells .blockEnd)
    (found : closing? (region ++ rest) = some text) : ∀ segment ∈ region, ¬ segment.Bounds := by
  induction region generalizing text with
  | nil => simp
  | cons segment region ih =>
    obtain ⟨other, unclosed⟩ := List.forall_mem_cons.mp unclosed
    rw [List.cons_append] at found
    have plain : ¬ segment.Bounds := by
      rintro (⟨name, opens⟩ | closes)
      · rw [closing?_start opens] at found
        cases found
      · exact other closes
    rw [closing?_plain plain, Option.map_eq_some_iff] at found
    obtain ⟨later, found, -⟩ := found
    exact List.forall_mem_cons.mpr ⟨plain, ih unclosed found⟩

private theorem filter_region {region : SegmentSequence} (inside : ∀ segment ∈ region, ¬ segment.Bounds) :
    region.filter (fun segment => ¬ segment.Bounds) = region := by
  apply List.filter_eq_self.mpr
  simpa using inside

private theorem filter_marker {segment : Segment} (bounds : segment.Bounds) (rest : SegmentSequence) :
    (segment :: rest).filter (fun segment => ¬ segment.Bounds) =
      rest.filter fun segment => ¬ segment.Bounds :=
  List.filter_cons_of_neg (by simpa using bounds)

/-- By induction on the reading of the page. The region that a given block hides is the text of the
page's own block, and an overridden block is never left open. -/
theorem overlaid_restated {text : String} (restates : Restates blocks page)
    (overlaid : Overlaid (fun name content => blocks.get? name = some content) page text) :
    text = flatten (page.filter fun segment => ¬ segment.Bounds) := by
  induction overlaid with
  | nil => rfl
  | closed start region stop rest name content text opens given inside closes tail ih =>
    -- The page's own block ends where the hidden region does: both at the first end marker.
    have own := restates.closing?_eq opens given
    have plain := plain_of_closing? inside own
    rw [closing?_append plain, closing?_end closes] at own
    have content_eq : content = flatten region := by simpa using own.symm
    have later : Restates blocks rest := (Restates.of_append restates.tail).tail
    rw [filter_marker opens.bounds_start, List.filter_append, filter_region plain,
      filter_marker (.inr closes), SegmentSequence.flatten_append, content_eq, ih later]
  | unclosed start region name content opens given inside =>
    have own := restates.closing?_eq opens given
    rw [← List.append_nil region] at own
    rw [closing?_append (plain_of_closing? inside own)] at own
    cases own
  | kept start rest name text opens free tail ih =>
    rw [filter_marker opens.bounds_start, ih restates.tail]
  | stray stop rest text closes tail ih =>
    rw [filter_marker (.inr closes), ih restates.tail]
  | plain segment rest text plain tail ih =>
    rw [List.filter_cons_of_pos (by simpa using plain), SegmentSequence.flatten_cons, ih restates.tail]

theorem Restates.flatten_replaceBlocks (restates : Restates blocks page) :
    flatten (replaceBlocks blocks page).sequence = flatten (stripBlockMarkers page) := by
  rw [flatten_stripBlockMarkers]
  exact overlaid_restated restates (overlaid_iff.mpr rfl)

theorem startedNames_append_start {start : Segment} {name : String} (before rest : SegmentSequence)
    (opens : start.Spells (.blockStart name)) :
    startedNames (before ++ start :: rest) = startedNames before ++ name :: startedNames rest := by
  have started := List.filterMap_cons_some (Segment.opened?_eq_some_iff.mpr opens) (l := rest)
  unfold startedNames
  rw [List.filterMap_append, started]

private theorem eq_nil_of_nodup {before middle after rest : SegmentSequence} {start start' : Segment} {name : String}
    (distinct : (startedNames (before ++ start :: after)).Nodup)
    (opens : start.Spells (.blockStart name)) (opens' : start'.Spells (.blockStart name))
    (same : start :: after = middle ++ start' :: rest) : middle = [] := by
  cases middle with
  | nil => rfl
  | cons segment middle =>
    rw [List.cons_append] at same
    obtain ⟨rfl, rfl⟩ := List.cons.inj same
    rw [startedNames_append_start before _ opens, startedNames_append_start middle _ opens'] at distinct
    have apart := (List.nodup_cons.mp (List.nodup_append.mp distinct).2.1).1
    exact absurd (List.mem_append_right _ List.mem_cons_self) apart

private theorem eq_of_nodup {before before' after after' : SegmentSequence} {start start' : Segment} {name : String}
    (distinct : (startedNames (before ++ start :: after)).Nodup)
    (opens : start.Spells (.blockStart name)) (opens' : start'.Spells (.blockStart name))
    (same : before ++ start :: after = before' ++ start' :: after') : before = before' := by
  have distinct' := distinct
  rw [same] at distinct'
  obtain ⟨middle, rfl, later⟩ | ⟨middle, rfl, later⟩ := List.append_eq_append_iff.mp same
  · rw [eq_nil_of_nodup distinct opens opens' later, List.append_nil]
  · rw [eq_nil_of_nodup distinct' opens' opens later, List.append_nil]

theorem restates_extractBlocks (distinct : (startedNames page).Nodup) :
    Restates (extractBlocks page).blocks page := by
  rintro before start after name content rfl opens given
  obtain ⟨before', body, back, block, held, -⟩ := get?_extractBlocks.mp given
  have first := block
  obtain ⟨start', stop, same, opens', -⟩ := first
  obtain rfl : before = before' := eq_of_nodup distinct opens opens' same
  exact ⟨body, back, block, held⟩

theorem restates_of_unused (unused : ∀ name ∈ startedNames page, blocks.get? name = none) :
    Restates blocks page := by
  rintro before start after name content rfl opens given
  have started : name ∈ startedNames (before ++ start :: after) := by
    rw [startedNames_append_start before after opens]
    exact List.mem_append_right _ List.mem_cons_self
  rw [unused name started] at given
  cases given

end Restated

section Render

variable {δ : Type} {lookup : Lookup δ} {name base : String} {data : δ} {producer basis : Producer δ}
  {page under : SegmentSequence}

/-- The blocks that `page` commits are started nowhere in `under`. -/
def GivesNothing (page under : SegmentSequence) : Prop :=
  ∀ name text, Commits page name text → name ∉ startedNames under

theorem GivesNothing.restates (nothing : GivesNothing page under) :
    Restates (extractBlocks page).blocks under := by
  apply restates_of_unused
  intro name started
  rw [Option.eq_none_iff_forall_ne_some]
  intro text given
  exact nothing name text (get?_extractBlocks.mp given) started

theorem result_render_eq_base (found : lookup name = some producer) (produced : producer data = .ok page)
    (extended : Extends page base) (baseFound : lookup base = some basis)
    (nothing : ∀ under, basis data = .ok under → extendTarget? under = none ∧ GivesNothing page under) :
    (render lookup name data).result = (render lookup base data).result := by
  have target := extendTarget?_eq_some_iff.mpr extended
  cases baseProduced : basis data with
  | error failure =>
    rw [render_baseFailing found produced target baseFound baseProduced,
      render_failing baseFound baseProduced]
  | ok under =>
    obtain ⟨alone, free⟩ := nothing under baseProduced
    rw [render_composed found produced target baseFound baseProduced,
      render_plain baseFound baseProduced alone, free.restates.flatten_replaceBlocks,
      flatten_stripBlockMarkers]

end Render

/-- Blocks that restate a page show what the page shows without its markers. So do the blocks of the
page itself if it starts no block twice, and blocks of which it starts none; and a page whose blocks
its base does not start renders as the base does, if this one extends nothing. -/
theorem replaceBlocks_restated (page : SegmentSequence) :
    (∀ blocks, Restates blocks page →
        flatten (replaceBlocks blocks page).sequence = flatten (stripBlockMarkers page)) ∧
      ((startedNames page).Nodup → Restates (extractBlocks page).blocks page ∧
        flatten (replaceBlocks (extractBlocks page).blocks page).sequence =
          flatten (stripBlockMarkers page)) ∧
      (∀ blocks : BlockMap, (∀ name ∈ startedNames page, blocks.get? name = none) →
        flatten (replaceBlocks blocks page).sequence = flatten (stripBlockMarkers page)) ∧
      ∀ (δ : Type) (lookup : Lookup δ) (name base : String) (data : δ) (producer basis : Producer δ),
        lookup name = some producer → producer data = .ok page → Extends page base →
        lookup base = some basis →
        (∀ under, basis data = .ok under → extendTarget? under = none ∧ GivesNothing page under) →
        (render lookup name data).result = (render lookup base data).result := by
  refine ⟨fun blocks restates => restates.flatten_replaceBlocks, fun distinct => ?_,
    fun blocks unused => (restates_of_unused unused).flatten_replaceBlocks, ?_⟩
  · have restates := restates_extractBlocks distinct
    exact ⟨restates, restates.flatten_replaceBlocks⟩
  · intro δ lookup name base data producer basis found produced extended baseFound nothing
    exact result_render_eq_base found produced extended baseFound nothing

def draftPage : SegmentSequence :=
  [.dynamic (some "\x7b\x7b extend base \x7d\x7d"), .dynamic (some "\x7b\x7b price \x7d\x7d"), .static "7",
    .dynamic (some "\x7b\x7b end \x7d\x7d"), .dynamic (some "\x7b\x7b note \x7d\x7d"), .static "later"]

def titlePage : SegmentSequence :=
  [.static "<h1>", .dynamic (some "\x7b\x7b title \x7d\x7d"), .static "None",
    .dynamic (some "\x7b\x7b end \x7d\x7d")]

def draftSite : Lookup Unit := fun name =>
  if name = "draft" then some fun _ => .ok draftPage
  else if name = "base" then some fun _ => .ok titlePage
  else none

theorem givesNothing_draftPage : GivesNothing draftPage titlePage := by
  intro name text commits started
  have only : name = "title" := by
    have names : startedNames titlePage = ["title"] := by decide +kernel
    rwa [names, List.mem_singleton] at started
  have absent : (extractBlocks draftPage).blocks.get? "title" = none := by decide +kernel
  rw [only, ← get?_extractBlocks, absent] at commits
  cases commits

theorem replaceBlocks_restated_draftPage :
    Restates (extractBlocks draftPage).blocks draftPage ∧
      flatten (replaceBlocks (extractBlocks draftPage).blocks draftPage).sequence =
        flatten (stripBlockMarkers draftPage) ∧
      flatten (replaceBlocks (.ofList [("title", "Other")]) draftPage).sequence =
        flatten (stripBlockMarkers draftPage) ∧
      (render draftSite "draft" ()).result = (render draftSite "base" ()).result := by
  obtain ⟨restated, own, unused, rendered⟩ := replaceBlocks_restated draftPage
  obtain ⟨restates, -⟩ := own (by decide +kernel)
  refine ⟨restates, restated _ restates, unused _ (by decide +kernel), ?_⟩
  refine rendered Unit draftSite "draft" "base" () _ _ rfl rfl
    (extendTarget?_eq_some_iff.mp (by decide +kernel)) rfl ?_
  intro under produced
  obtain rfl : titlePage = under := Except.ok.inj produced
  exact ⟨by decide +kernel, givesNothing_draftPage⟩

end BlockTemplates
