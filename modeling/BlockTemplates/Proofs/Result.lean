import BlockTemplates.Failure
import Mathlib.Data.List.Forall2

/-! Steps over a list that may fail. They succeed when each of them does, and it makes no difference
to the values whether all items take one step before the first of them takes the next. -/

namespace BlockTemplates.Result

variable {α β γ : Type}

theorem bind_eq_ok_iff {ε : Type} {first : Except ε α} {next : α → Except ε β} {value : β} :
    first >>= next = .ok value ↔ ∃ middle, first = .ok middle ∧ next middle = .ok value := by
  cases first with
  | error failure => exact iff_of_false (fun same => nomatch same) fun ⟨_, same, _⟩ => nomatch same
  | ok middle =>
    constructor
    · intro same
      exact ⟨middle, rfl, same⟩
    · rintro ⟨other, same, last⟩
      obtain rfl := Except.ok.inj same
      exact last

theorem bind_eq_error_iff {first : Result α} {next : α → Result β} {failure : Failure} :
    first >>= next = .error failure ↔
      first = .error failure ∨ ∃ middle, first = .ok middle ∧ next middle = .error failure := by
  cases first with
  | error other =>
    constructor
    · intro same
      exact .inl (congrArg _ (Except.error.inj same))
    · rintro (same | ⟨_, same, _⟩)
      · exact congrArg _ (Except.error.inj same)
      · cases same
  | ok middle =>
    constructor
    · exact fun same => .inr ⟨middle, rfl, same⟩
    · rintro (same | ⟨other, same, last⟩)
      · cases same
      · obtain rfl := Except.ok.inj same
        exact last

theorem mapError_eq_ok_iff {ε : Type} {wrap : ε → Failure} {result : Except ε α} {value : α} :
    result.mapError wrap = .ok value ↔ result = .ok value := by
  cases result with
  | error error => exact iff_of_false (fun same => nomatch same) fun same => nomatch same
  | ok other =>
    constructor
    · exact fun same => congrArg _ (Except.ok.inj same)
    · exact fun same => congrArg _ (Except.ok.inj same)

theorem mapError_eq_error_iff {ε : Type} {wrap : ε → Failure} {result : Except ε α} {failure : Failure} :
    result.mapError wrap = .error failure ↔ ∃ error, result = .error error ∧ wrap error = failure := by
  cases result with
  | error error =>
    constructor
    · exact fun same => ⟨error, rfl, Except.error.inj same⟩
    · rintro ⟨other, same, rfl⟩
      obtain rfl := Except.error.inj same
      rfl
  | ok value => exact iff_of_false (fun same => nomatch same) fun ⟨_, same, _⟩ => nomatch same

theorem forM_eq_ok_iff {check : α → Result Unit} {items : List α} :
    items.forM check = .ok () ↔ ∀ item ∈ items, check item = .ok () := by
  induction items with
  | nil => exact iff_of_true rfl (List.forall_mem_nil _)
  | cons item items ih =>
    rw [List.forM, List.forall_mem_cons, ← ih]
    cases check item with
    | error failure => exact iff_of_false (fun passed => nomatch passed) fun passed => nomatch passed.1
    | ok _ => exact (and_iff_right rfl).symm

theorem mapM_eq_ok_iff {step : α → Result β} {items : List α} {values : List β} :
    items.mapM step = .ok values ↔ List.Forall₂ (fun item value => step item = .ok value) items values := by
  induction items generalizing values with
  | nil =>
    rw [List.forall₂_nil_left_iff, List.mapM_nil]
    exact ⟨fun made => (Except.ok.inj made).symm, fun empty => by rw [empty]; rfl⟩
  | cons item items ih =>
    rw [List.mapM_cons, List.forall₂_cons_left_iff]
    constructor
    · intro made
      obtain ⟨value, first, more⟩ := bind_eq_ok_iff.mp made
      obtain ⟨others, later, same⟩ := bind_eq_ok_iff.mp more
      exact ⟨value, others, first, ih.mp later, (Except.ok.inj same).symm⟩
    · rintro ⟨value, others, first, later, rfl⟩
      rw [first, ih.mpr later]
      rfl

theorem mem_iff_of_mapM {step : α → Result β} {items : List α} {values : List β} (made : items.mapM step = .ok values)
    {value : β} : value ∈ values ↔ ∃ item ∈ items, step item = .ok value := by
  rw [mapM_eq_ok_iff] at made
  induction made with
  | nil => exact iff_of_false List.not_mem_nil fun ⟨_, inside, _⟩ => absurd inside List.not_mem_nil
  | cons first _ ih =>
    rw [List.mem_cons, List.exists_mem_cons_iff, ih, first, Except.ok.injEq, eq_comm]

theorem exists_of_mapM {step : α → Result β} {items : List α} {values : List β} (made : items.mapM step = .ok values) :
    ∀ item ∈ items, ∃ value, step item = .ok value := by
  rw [mapM_eq_ok_iff] at made
  induction made with
  | nil => exact List.forall_mem_nil _
  | cons first _ ih => exact List.forall_mem_cons.mpr ⟨⟨_, first⟩, ih⟩

theorem exists_mapM {step : α → Result β} {good : β → Prop} {items : List α}
    (steps : ∀ item ∈ items, ∃ value, step item = .ok value ∧ good value) :
    ∃ values, items.mapM step = .ok values ∧ ∀ value ∈ values, good value := by
  induction items with
  | nil => exact ⟨[], rfl, List.forall_mem_nil _⟩
  | cons item items ih =>
    rw [List.forall_mem_cons] at steps
    obtain ⟨value, first, fine⟩ := steps.1
    obtain ⟨values, rest, others⟩ := ih steps.2
    refine ⟨value :: values, ?_, List.forall_mem_cons.mpr ⟨fine, others⟩⟩
    rw [List.mapM_cons, first, rest]
    rfl

theorem mapM_eq_error_iff {step : α → Result β} {items : List α} {failure : Failure} :
    items.mapM step = .error failure ↔
      ∃ before item after, items = before ++ item :: after ∧
        (∀ earlier ∈ before, ∃ value, step earlier = .ok value) ∧ step item = .error failure := by
  induction items with
  | nil =>
    refine iff_of_false (fun failed => nomatch failed) ?_
    rintro ⟨before, item, after, whole, -⟩
    exact absurd whole.symm (List.append_ne_nil_of_right_ne_nil _ (List.cons_ne_nil _ _))
  | cons first items ih =>
    rw [List.mapM_cons, bind_eq_error_iff]
    constructor
    · rintro (failed | ⟨value, done, rest⟩)
      · exact ⟨[], first, items, rfl, List.forall_mem_nil _, failed⟩
      · rcases bind_eq_error_iff.mp rest with failed | ⟨values, -, last⟩
        · obtain ⟨before, item, after, rfl, fine, failed⟩ := ih.mp failed
          exact ⟨first :: before, item, after, rfl, List.forall_mem_cons.mpr ⟨⟨value, done⟩, fine⟩, failed⟩
        · cases last
    · rintro ⟨before, item, after, whole, fine, failed⟩
      cases before with
      | nil =>
        obtain ⟨rfl, rfl⟩ := List.cons.inj whole
        exact .inl failed
      | cons other before =>
        obtain ⟨rfl, rfl⟩ := List.cons.inj whole
        obtain ⟨⟨value, done⟩, fine⟩ := List.forall_mem_cons.mp fine
        exact .inr ⟨value, done, bind_eq_error_iff.mpr (.inl (ih.mpr ⟨before, item, after, rfl, fine, failed⟩))⟩

theorem forM_eq_mapM (check : α → Result Unit) (items : List α) :
    items.forM check = items.mapM check >>= fun _ => .ok () := by
  induction items with
  | nil => rfl
  | cons item items ih =>
    rw [List.forM, List.mapM_cons, ih]
    simp only [bind_assoc, pure_bind]

theorem forM_eq_error_iff {check : α → Result Unit} {items : List α} {failure : Failure} :
    items.forM check = .error failure ↔
      ∃ before item after, items = before ++ item :: after ∧
        (∀ earlier ∈ before, check earlier = .ok ()) ∧ check item = .error failure := by
  have passed (item : α) : (∃ value, check item = .ok value) ↔ check item = .ok () :=
    ⟨fun ⟨_, done⟩ => done, fun done => ⟨(), done⟩⟩
  rw [forM_eq_mapM, bind_eq_error_iff, or_iff_left (fun ⟨_, _, done⟩ => nomatch done), mapM_eq_error_iff]
  simp only [passed]

theorem forall₂_and_right {relation : α → β → Prop} {holds : β → Prop} {items : List α} {values : List β} :
    List.Forall₂ (fun item value => relation item value ∧ holds value) items values ↔
      List.Forall₂ relation items values ∧ ∀ value ∈ values, holds value := by
  constructor
  · intro both
    induction both with
    | nil => exact ⟨.nil, List.forall_mem_nil _⟩
    | cons first _ ih => exact ⟨.cons first.1 ih.1, List.forall_mem_cons.mpr ⟨first.2, ih.2⟩⟩
  · rintro ⟨related, all⟩
    induction related with
    | nil => exact .nil
    | cons first _ ih =>
      rw [List.forall_mem_cons] at all
      exact .cons ⟨first, all.1⟩ (ih all.2)

theorem forall₂_of_mapM {step : α → Result β} {relation : α → β → Prop} {items : List α} {values : List β}
    (made : items.mapM step = .ok values)
    (related : ∀ item ∈ items, ∀ value, step item = .ok value → relation item value) :
    List.Forall₂ relation items values := by
  have steps := mapM_eq_ok_iff.mp made
  clear made
  induction steps with
  | nil => exact .nil
  | cons first _ ih =>
    rw [List.forall_mem_cons] at related
    exact .cons (related.1 _ first) (ih related.2)

/-- Once all items have taken a first step, only the second one can fail. -/
theorem mapM_bind_eq {step : α → Result β} (next : β → Result γ) {items : List α} {values : List β}
    (made : items.mapM step = .ok values) :
    (items.mapM fun item => step item >>= next) = values.mapM next := by
  have related := mapM_eq_ok_iff.mp made
  clear made
  induction related with
  | nil => rfl
  | cons first _ ih =>
    rw [List.mapM_cons, List.mapM_cons, ih, first]
    rfl

theorem toOption_eq_some_iff {result : Result α} {value : α} :
    result.toOption = some value ↔ result = .ok value := by
  cases result with
  | error failure => exact iff_of_false (fun same => nomatch same) fun same => nomatch same
  | ok other =>
    constructor
    · exact fun same => congrArg _ (Option.some.inj same)
    · exact fun same => congrArg _ (Except.ok.inj same)

end BlockTemplates.Result
