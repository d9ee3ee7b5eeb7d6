import BlockTemplates.Dict
import BlockTemplates.Failure
import Mathlib.Data.List.Forall2

/-! Two runs side by side. A relation between values is carried to results, which also correspond
when both are the same failure, and to maps with the same keys; steps that keep the relation keep
it for a whole run. -/

namespace BlockTemplates

namespace Result

/-- Both end with one failure, or both succeed with related values. -/
inductive Rel {α β : Type} (R : α → β → Prop) : Result α → Result β → Prop
  | failed (failure : Failure) : Rel R (.error failure) (.error failure)
  | done {a : α} {b : β} (related : R a b) : Rel R (.ok a) (.ok b)

variable {α β γ δ : Type} {R : α → β → Prop} {S : γ → δ → Prop}

theorem Rel.bind {first : Result α} {second : Result β} {next : α → Result γ} {next' : β → Result δ}
    (begun : Rel R first second) (further : ∀ a b, R a b → Rel S (next a) (next' b)) :
    Rel S (first >>= next) (second >>= next') := by
  cases begun with
  | failed failure => exact .failed failure
  | done related => exact further _ _ related

theorem Rel.mono {R' : α → β → Prop} {first : Result α} {second : Result β} (ended : Rel R first second)
    (weaker : ∀ a b, R a b → R' a b) : Rel R' first second := by
  cases ended with
  | failed failure => exact .failed failure
  | done related => exact .done (weaker _ _ related)

theorem Rel.mapM {step : α → Result γ} {step' : β → Result δ} {items : List α} {items' : List β}
    (related : List.Forall₂ R items items') (steps : ∀ a b, R a b → Rel S (step a) (step' b)) :
    Rel (List.Forall₂ S) (items.mapM step) (items'.mapM step') := by
  induction related with
  | nil => exact .done .nil
  | cons head _ ih =>
    rw [List.mapM_cons, List.mapM_cons]
    apply (steps _ _ head).bind
    intro value value' same
    apply ih.bind
    intro values values' rest
    exact .done (.cons same rest)

theorem forM_eq {check : α → Result Unit} {check' : β → Result Unit} {items : List α}
    {items' : List β} (related : List.Forall₂ R items items')
    (same : ∀ a b, R a b → check a = check' b) : items.forM check = items'.forM check' := by
  induction related with
  | nil => rfl
  | cons head _ ih =>
    rw [List.forM, List.forM, same _ _ head, ih]

end Result

namespace Dict

variable {α β : Type} {R : α → β → Prop} {map : Dict α} {map' : Dict β}

def Rel (R : α → β → Prop) (map : Dict α) (map' : Dict β) : Prop :=
  List.Forall₂ (fun entry entry' => entry.1 = entry'.1 ∧ R entry.2 entry'.2) map.entries map'.entries

theorem Rel.empty : Rel R empty empty := .nil

theorem Rel.keys (related : Rel R map map') : map.keys = map'.keys := by
  unfold Rel at related
  unfold Dict.keys
  generalize map.entries = entries, map'.entries = entries' at *
  induction related with
  | nil => rfl
  | cons head _ ih => rw [List.map_cons, List.map_cons, head.1, ih]

theorem Rel.get? (related : Rel R map map') (key : String) :
    Option.Rel R (map.get? key) (map'.get? key) := by
  unfold Rel at related
  unfold Dict.get?
  generalize map.entries = entries, map'.entries = entries' at *
  induction related with
  | nil => exact .none
  | @cons entry entry' rest rest' head _ ih =>
    rw [List.lookup_cons, List.lookup_cons, head.1]
    split
    · exact .some head.2
    · exact ih

theorem Rel.insert (related : Rel R map map') (key : String) {value : α} {value' : β}
    (same : R value value') : Rel R (map.insert key value) (map'.insert key value') := by
  unfold Rel at related
  change List.Forall₂ _ (insertEntry key value map.entries) (insertEntry key value' map'.entries)
  generalize map.entries = entries, map'.entries = entries' at *
  induction related with
  | nil => exact .cons ⟨rfl, same⟩ .nil
  | @cons entry entry' rest rest' head tail ih =>
    unfold insertEntry
    rw [head.1]
    split
    · exact .cons ⟨rfl, same⟩ (.cons ⟨rfl, head.2⟩ tail)
    · split
      · exact .cons ⟨rfl, same⟩ tail
      · exact .cons ⟨rfl, head.2⟩ ih

theorem Rel.ofList {entries : List (String × α)} {entries' : List (String × β)}
    (related : List.Forall₂ (fun entry entry' => entry.1 = entry'.1 ∧ R entry.2 entry'.2) entries entries') :
    Rel R (ofList entries) (ofList entries') := by
  suffices ∀ map map', Rel R map map' → Rel R (insertAll map entries) (insertAll map' entries') from
    this Dict.empty Dict.empty .empty
  induction related with
  | nil => exact fun _ _ begun => begun
  | cons head _ ih =>
    intro map map' begun
    apply ih
    dsimp only
    rw [head.1]
    exact begun.insert _ head.2

end Dict

end BlockTemplates
