import BlockTemplates.Compose.Render
import BlockTemplates.Proofs.Compose.Overlay

/-! What a render answers, said without the walks that compute it. A page that extends nothing is
the text of its segments that bound no block; a page that extends a base is the base read with the
blocks of the page laid over it. Main statement: `render_result_iff`. -/

namespace BlockTemplates

open SegmentSequence (flatten)

def Extends (page : SegmentSequence) (base : String) : Prop :=
  ∃ before segment after, page = before ++ segment :: after ∧ segment.Spells (.extend base) ∧
    ∀ earlier ∈ before, ∀ other, ¬ earlier.Spells (.extend other)

/-- What the render of a named page answers. -/
inductive Answers {δ : Type} (lookup : Lookup δ) (name : String) (data : δ) : Result String → Prop
  | missing (absent : lookup name = none) :
      Answers lookup name data (.error (.templateNotFound name .template))
  | failing (producer : Producer δ) (failure : Failure) (found : lookup name = some producer)
      (failed : producer data = .error failure) : Answers lookup name data (.error failure)
  | plain (producer : Producer δ) (page : SegmentSequence) (found : lookup name = some producer)
      (produced : producer data = .ok page)
      (alone : ∀ segment ∈ page, ∀ base, ¬ segment.Spells (.extend base)) :
      Answers lookup name data (.ok (flatten (page.filter fun segment => ¬ segment.Bounds)))
  | baseMissing (producer : Producer δ) (page : SegmentSequence) (base : String)
      (found : lookup name = some producer) (produced : producer data = .ok page)
      (extended : Extends page base) (absent : lookup base = none) :
      Answers lookup name data (.error (.templateNotFound base .extendTarget))
  | baseFailing (producer : Producer δ) (page : SegmentSequence) (base : String)
      (basis : Producer δ) (failure : Failure)
      (found : lookup name = some producer) (produced : producer data = .ok page)
      (extended : Extends page base) (baseFound : lookup base = some basis)
      (failed : basis data = .error failure) : Answers lookup name data (.error failure)
  | composed (producer : Producer δ) (page : SegmentSequence) (base : String)
      (basis : Producer δ) (under : SegmentSequence) (text : String)
      (found : lookup name = some producer) (produced : producer data = .ok page)
      (extended : Extends page base) (baseFound : lookup base = some basis)
      (baseProduced : basis data = .ok under) (overlaid : Overlaid (Commits page) under text) :
      Answers lookup name data (.ok text)

private theorem target_eq_some_iff {segment : Segment} {base : String} :
    segment.directive?.bind Directive.extendTarget? = some base ↔ segment.Spells (.extend base) := by
  rw [← Segment.directive?_eq_some_iff]
  cases segment.directive? with
  | none => simp
  | some marker => cases marker <;> simp [Directive.extendTarget?]

private theorem target_eq_none_iff {segment : Segment} :
    segment.directive?.bind Directive.extendTarget? = none ↔
      ∀ other, ¬ segment.Spells (.extend other) := by
  simp only [Option.eq_none_iff_forall_ne_some, ne_eq, target_eq_some_iff]

theorem extendTarget?_eq_some_iff {page : SegmentSequence} {base : String} :
    extendTarget? page = some base ↔ Extends page base := by
  simp only [extendTarget?, Extends, List.findSome?_eq_some_iff, target_eq_some_iff,
    target_eq_none_iff]

theorem extendTarget?_eq_none_iff {page : SegmentSequence} :
    extendTarget? page = none ↔ ∀ segment ∈ page, ∀ base, ¬ segment.Spells (.extend base) := by
  simp only [extendTarget?, List.findSome?_eq_none_iff, target_eq_none_iff]

theorem flatten_stripBlockMarkers (page : SegmentSequence) :
    flatten (stripBlockMarkers page) = flatten (page.filter fun segment => ¬ segment.Bounds) := by
  induction page with
  | nil => rfl
  | cons segment rest ih =>
    rw [stripBlockMarkers, List.map_cons, ← stripBlockMarkers, SegmentSequence.flatten_cons, ih]
    by_cases bounds : segment.Bounds
    · rw [List.filter_cons_of_neg (by simpa using bounds), if_pos (Segment.bounds_iff.mp bounds)]
      simp
    · rw [List.filter_cons_of_pos (by simpa using bounds), if_neg (mt Segment.bounds_iff.mpr bounds),
        SegmentSequence.flatten_cons]

theorem composed_iff {page under : SegmentSequence} {text : String} :
    Overlaid (Commits page) under text ↔
      flatten (replaceBlocks (extractBlocks page).blocks under).sequence = text := by
  have same : Commits page = fun name content => (extractBlocks page).blocks.get? name = some content := by
    funext name content
    exact propext get?_extractBlocks.symm
  rw [same, overlaid_iff]

section Result

variable {δ : Type} {lookup : Lookup δ} {name base : String} {data : δ} {producer basis : Producer δ}
  {page under : SegmentSequence} {failure : Failure}

theorem render_missing (absent : lookup name = none) :
    (render lookup name data).result = .error (.templateNotFound name .template) := by
  simp [render, produce, absent]

theorem render_failing (found : lookup name = some producer) (failed : producer data = .error failure) :
    (render lookup name data).result = .error failure := by
  simp [render, produce, found, failed]

theorem render_plain (found : lookup name = some producer) (produced : producer data = .ok page)
    (alone : extendTarget? page = none) :
    (render lookup name data).result =
      .ok (flatten (page.filter fun segment => ¬ segment.Bounds)) := by
  rw [← flatten_stripBlockMarkers]
  simp [render, produce, found, produced, alone, flattenPage, Rendered.report]

theorem render_baseMissing (found : lookup name = some producer) (produced : producer data = .ok page)
    (extended : extendTarget? page = some base) (absent : lookup base = none) :
    (render lookup name data).result = .error (.templateNotFound base .extendTarget) := by
  simp [render, produce, found, produced, extended, extendPage, absent, Rendered.report]

theorem render_baseFailing (found : lookup name = some producer) (produced : producer data = .ok page)
    (extended : extendTarget? page = some base) (baseFound : lookup base = some basis)
    (failed : basis data = .error failure) : (render lookup name data).result = .error failure := by
  simp [render, produce, found, produced, extended, extendPage, baseFound, failed, Rendered.report]

theorem render_composed (found : lookup name = some producer) (produced : producer data = .ok page)
    (extended : extendTarget? page = some base) (baseFound : lookup base = some basis)
    (baseProduced : basis data = .ok under) :
    (render lookup name data).result =
      .ok (flatten (replaceBlocks (extractBlocks page).blocks under).sequence) := by
  simp [render, produce, found, produced, extended, extendPage, baseFound, baseProduced,
    Rendered.report]

private theorem answers_result : Answers lookup name data (render lookup name data).result := by
  cases found : lookup name with
  | none => exact render_missing found ▸ .missing found
  | some producer =>
    cases produced : producer data with
    | error failure => exact render_failing found produced ▸ .failing producer failure found produced
    | ok page =>
      cases target : extendTarget? page with
      | none =>
        rw [render_plain found produced target]
        exact .plain producer page found produced (extendTarget?_eq_none_iff.mp target)
      | some base =>
        have extended := extendTarget?_eq_some_iff.mp target
        cases baseFound : lookup base with
        | none =>
          rw [render_baseMissing found produced target baseFound]
          exact .baseMissing producer page base found produced extended baseFound
        | some basis =>
          cases baseProduced : basis data with
          | error failure =>
            rw [render_baseFailing found produced target baseFound baseProduced]
            exact .baseFailing producer page base basis failure found produced extended baseFound
              baseProduced
          | ok under =>
            rw [render_composed found produced target baseFound baseProduced]
            exact .composed producer page base basis under _ found produced extended baseFound
              baseProduced (composed_iff.mpr rfl)

private theorem result_eq {answer : Result String} (answers : Answers lookup name data answer) :
    (render lookup name data).result = answer := by
  cases answers with
  | missing absent => exact render_missing absent
  | failing producer failure found failed => exact render_failing found failed
  | plain producer page found produced alone =>
    exact render_plain found produced (extendTarget?_eq_none_iff.mpr alone)
  | baseMissing producer page base found produced extended absent =>
    exact render_baseMissing found produced (extendTarget?_eq_some_iff.mpr extended) absent
  | baseFailing producer page base basis failure found produced extended baseFound failed =>
    exact render_baseFailing found produced (extendTarget?_eq_some_iff.mpr extended) baseFound failed
  | composed producer page base basis under text found produced extended baseFound baseProduced
      overlaid =>
    rw [render_composed found produced (extendTarget?_eq_some_iff.mpr extended) baseFound
      baseProduced, composed_iff.mp overlaid]

end Result

/-- A render answers what the page, its base and the blocks between them say, and nothing else. -/
theorem render_result_iff {δ : Type} (lookup : Lookup δ) (name : String) (data : δ)
    (answer : Result String) :
    (render lookup name data).result = answer ↔ Answers lookup name data answer := by
  constructor
  · rintro rfl
    exact answers_result
  · exact result_eq

end BlockTemplates
