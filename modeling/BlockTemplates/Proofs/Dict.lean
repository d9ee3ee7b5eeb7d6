import BlockTemplates.Dict
import Mathlib.Data.List.Perm.Subperm
import Mathlib.Data.List.Sort

/-! Maps built from lists of entries. Main statements: `ofList_entries`, a map is built from its own
entries, and `mem_entries_ofList`, it holds the entries of a list that gives each name one value. -/

namespace BlockTemplates.Dict

variable {α : Type}

theorem insertEntry_last {key : String} (value : α) {entries : List (String × α)}
    (above : ∀ entry ∈ entries, entry.1 < key) :
    insertEntry key value entries = entries ++ [(key, value)] := by
  induction entries with
  | nil => rfl
  | cons head rest ih =>
    have below : head.1 < key := above head List.mem_cons_self
    have notBefore : ¬ key < head.1 := String.lt_asymm below
    have notSame : ¬ key = head.1 := fun same => String.lt_irrefl _ (same ▸ below)
    unfold insertEntry
    rw [if_neg notBefore, if_neg notSame, ih fun entry found => above entry (List.mem_cons_of_mem _ found)]
    rfl

theorem entries_insertAll (map : Dict α) {more : List (String × α)}
    (increasing : Increasing (map.entries ++ more)) : (map.insertAll more).entries = map.entries ++ more := by
  induction more generalizing map with
  | nil => exact (List.append_nil _).symm
  | cons head rest ih =>
    have above : ∀ entry ∈ map.entries, entry.1 < head.1 := fun entry found =>
      (List.pairwise_append.mp increasing).2.2 entry found head List.mem_cons_self
    have inserted : (map.insert head.1 head.2).entries = map.entries ++ [head] :=
      insertEntry_last head.2 above
    have further : Increasing ((map.insert head.1 head.2).entries ++ rest) := by
      rw [inserted, List.append_assoc]
      exact increasing
    change ((map.insert head.1 head.2).insertAll rest).entries = _
    rw [ih _ further, inserted, List.append_assoc]
    rfl

theorem ofList_entries (map : Dict α) : ofList map.entries = map := by
  apply Dict.ext
  exact entries_insertAll empty map.increasing

theorem mem_entries_iff {map : Dict α} {entry : String × α} :
    entry ∈ map.entries ↔ map.get? entry.1 = some entry.2 := by
  unfold get?
  constructor
  · intro found
    obtain ⟨before, after, whole⟩ := List.append_of_mem found
    refine List.lookup_eq_some_iff.mpr ⟨before, after, whole, fun other earlier => ?_⟩
    have increasing := map.increasing
    rw [Increasing, whole, List.pairwise_append] at increasing
    have below := increasing.2.2 other earlier entry List.mem_cons_self
    rw [bne_iff_ne]
    exact fun same => String.lt_irrefl _ (same ▸ below)
  · intro found
    obtain ⟨before, after, whole, -⟩ := List.lookup_eq_some_iff.mp found
    rw [whole]
    exact List.mem_append_right _ List.mem_cons_self

theorem mem_before_iff {map : Dict α} {before after : List (String × α)} {entry other : String × α}
    (whole : map.entries = before ++ entry :: after) :
    other ∈ before ↔ other ∈ map.entries ∧ other.1 < entry.1 := by
  have increasing := map.increasing
  rw [Increasing, whole, List.pairwise_append, List.pairwise_cons] at increasing
  obtain ⟨-, ⟨above, -⟩, across⟩ := increasing
  rw [whole, List.mem_append, List.mem_cons]
  constructor
  · exact fun first => ⟨.inl first, across other first entry List.mem_cons_self⟩
  · rintro ⟨first | rfl | last, below⟩
    · exact first
    · exact absurd below (String.lt_irrefl _)
    · exact absurd below (String.lt_asymm (above other last))

theorem mem_keys_iff {entries : List (String × α)} {key : String} :
    key ∈ entries.map Prod.fst ↔ ∃ value, entries.lookup key = some value := by
  rw [List.mem_map]
  constructor
  · rintro ⟨entry, inside, rfl⟩
    cases found : entries.lookup entry.1 with
    | none => exact absurd rfl (bne_iff_ne.mp (List.lookup_eq_none_iff.mp found entry inside))
    | some value => exact ⟨value, rfl⟩
  · rintro ⟨value, found⟩
    obtain ⟨before, after, whole, -⟩ := List.lookup_eq_some_iff.mp found
    exact ⟨(key, value), by rw [whole]; exact List.mem_append_right _ List.mem_cons_self, rfl⟩

theorem increasing_congr {β : Type} {entries : List (String × α)} {entries' : List (String × β)}
    (same : entries'.map Prod.fst = entries.map Prod.fst) (increasing : Increasing entries) :
    Increasing entries' := by
  have keys : (entries.map Prod.fst).Pairwise (· < ·) := List.pairwise_map.mpr increasing
  rw [← same] at keys
  exact List.pairwise_map.mp keys

theorem ext_get? {map other : Dict α} (same : ∀ key, map.get? key = other.get? key) : map = other := by
  have irrefl : Std.Irrefl fun a b : String × α => a.1 < b.1 := ⟨fun a => String.lt_irrefl a.1⟩
  have asymm : Std.Asymm fun a b : String × α => a.1 < b.1 := ⟨fun a b => String.lt_asymm⟩
  apply Dict.ext
  refine List.Pairwise.eq_of_mem_iff map.increasing other.increasing fun entry => ?_
  rw [mem_entries_iff, mem_entries_iff, same]

theorem get?_insertAll (map : Dict α) (more : List (String × α)) (key : String) :
    (map.insertAll more).get? key = (more.reverse.lookup key).or (map.get? key) := by
  induction more generalizing map with
  | nil => rfl
  | cons head rest ih =>
    change ((map.insert head.1 head.2).insertAll rest).get? key = _
    rw [ih, get?_insert, List.reverse_cons, List.lookup_append, Option.or_assoc, List.lookup_cons]
    split
    · next same => rw [same, beq_self_eq_true]; rfl
    · next other => rw [beq_eq_false_iff_ne.mpr other]; rfl

/-- Of the entries of a list the last one of a name counts. -/
theorem get?_ofList (entries : List (String × α)) (key : String) :
    (ofList entries).get? key = entries.reverse.lookup key := by
  have added := get?_insertAll empty entries key
  rwa [get?_empty, Option.or_none] at added

/-- The list gives each name one value. -/
def OneValued (entries : List (String × α)) : Prop :=
  ∀ entry ∈ entries, ∀ other ∈ entries, entry.1 = other.1 → entry.2 = other.2

theorem mem_of_mem_ofList {entries : List (String × α)} {entry : String × α}
    (found : entry ∈ (ofList entries).entries) : entry ∈ entries := by
  rw [mem_entries_iff, get?_ofList] at found
  obtain ⟨before, after, whole, -⟩ := List.lookup_eq_some_iff.mp found
  rw [← List.mem_reverse, whole]
  exact List.mem_append_right _ List.mem_cons_self

theorem mem_entries_ofList {entries : List (String × α)} (single : OneValued entries)
    {entry : String × α} (found : entry ∈ entries) : entry ∈ (ofList entries).entries := by
  cases value : (ofList entries).get? entry.1 with
  | none =>
    rw [get?_ofList, List.lookup_eq_none_iff] at value
    have other := value entry (List.mem_reverse.mpr found)
    exact absurd rfl (bne_iff_ne.mp other)
  | some other =>
    have held : (entry.1, other) ∈ (ofList entries).entries := mem_entries_iff.mpr value
    rw [mem_entries_iff, value, single entry found _ (mem_of_mem_ofList held) rfl]

end BlockTemplates.Dict
