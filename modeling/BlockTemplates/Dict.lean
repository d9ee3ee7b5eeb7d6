/-! Finite maps keyed by name, kept as the list of their entries in strictly increasing key order.
A map has one representation, so equality of maps is equality of entries. Main statements: what
`get?` answers after `insert`, and that `ofList` keeps the last entry of a repeated key. -/

namespace BlockTemplates

/-- Entries in strictly increasing key order. -/
def Increasing {α : Type} (entries : List (String × α)) : Prop :=
  entries.Pairwise (fun a b => a.1 < b.1)

structure Dict (α : Type) where
  entries : List (String × α)
  increasing : Increasing entries

namespace Dict

variable {α : Type}

@[ext]
theorem ext {a b : Dict α} (h : a.entries = b.entries) : a = b := by
  cases a; cases b; simp_all

instance [BEq α] : BEq (Dict α) := ⟨fun a b => a.entries == b.entries⟩

instance [DecidableEq α] : DecidableEq (Dict α) := fun a b =>
  if h : a.entries = b.entries then .isTrue (ext h)
  else .isFalse (fun same => h (same ▸ rfl))

def empty : Dict α := ⟨[], List.Pairwise.nil⟩

instance : Inhabited (Dict α) := ⟨empty⟩

def insertEntry (key : String) (value : α) : List (String × α) → List (String × α)
  | [] => [(key, value)]
  | (k, v) :: rest =>
    if key < k then (key, value) :: (k, v) :: rest
    else if key = k then (key, value) :: rest
    else (k, v) :: insertEntry key value rest

theorem mem_insertEntry {key : String} {value : α} {entries : List (String × α)}
    {entry : String × α} (h : entry ∈ insertEntry key value entries) :
    entry = (key, value) ∨ entry ∈ entries := by
  induction entries with
  | nil => simpa [insertEntry] using h
  | cons head rest ih =>
    obtain ⟨k, v⟩ := head
    simp only [insertEntry] at h
    split at h
    · simpa using h
    · split at h
      · rcases List.mem_cons.mp h with h | h
        · exact .inl h
        · exact .inr (List.mem_cons_of_mem _ h)
      · rcases List.mem_cons.mp h with h | h
        · exact .inr (h ▸ List.mem_cons_self)
        · rcases ih h with h | h
          · exact .inl h
          · exact .inr (List.mem_cons_of_mem _ h)

theorem insertEntry_increasing (key : String) (value : α) {entries : List (String × α)}
    (sorted : Increasing entries) : Increasing (insertEntry key value entries) := by
  induction entries with
  | nil => simp [insertEntry, Increasing]
  | cons head rest ih =>
    obtain ⟨k, v⟩ := head
    obtain ⟨first, later⟩ := List.pairwise_cons.mp sorted
    simp only [insertEntry]
    split
    · next below =>
      refine List.pairwise_cons.mpr ⟨fun entry found => ?_, sorted⟩
      rcases List.mem_cons.mp found with found | found
      · exact found ▸ below
      · exact String.lt_trans below (first entry found)
    · split
      · next same =>
        refine List.pairwise_cons.mpr ⟨fun entry found => ?_, later⟩
        exact same ▸ first entry found
      · next notBelow notSame =>
        refine List.pairwise_cons.mpr ⟨fun entry found => ?_, ih later⟩
        rcases mem_insertEntry found with found | found
        · subst found
          refine Decidable.byContradiction fun notAbove => notSame ?_
          exact String.le_antisymm (String.not_lt.mp notAbove) (String.not_lt.mp notBelow)
        · exact first entry found

def insert (map : Dict α) (key : String) (value : α) : Dict α :=
  ⟨insertEntry key value map.entries, insertEntry_increasing key value map.increasing⟩

def get? (map : Dict α) (key : String) : Option α := map.entries.lookup key

def contains (map : Dict α) (key : String) : Bool := (map.get? key).isSome

def keys (map : Dict α) : List String := map.entries.map Prod.fst

def size (map : Dict α) : Nat := map.entries.length

def isEmpty (map : Dict α) : Bool := map.entries.isEmpty

/-- The entries of `other` laid over those of `map`. -/
def insertAll (map : Dict α) (other : List (String × α)) : Dict α :=
  other.foldl (fun built entry => built.insert entry.1 entry.2) map

def ofList (entries : List (String × α)) : Dict α := empty.insertAll entries

@[simp]
theorem get?_empty (key : String) : (empty : Dict α).get? key = none := rfl

private theorem lookup_step (other k : String) (v : α) (rest : List (String × α)) :
    List.lookup other ((k, v) :: rest) = if other = k then some v else rest.lookup other := by
  rw [List.lookup_cons]
  by_cases same : other = k
  · simp [same]
  · have apart : (other == k) = false := by simpa using same
    simp [apart, same]

theorem lookup_insertEntry (key other : String) (value : α) (entries : List (String × α)) :
    (insertEntry key value entries).lookup other =
      if other = key then some value else entries.lookup other := by
  induction entries with
  | nil => simp [insertEntry, lookup_step]
  | cons head rest ih =>
    obtain ⟨k, v⟩ := head
    simp only [insertEntry]
    split
    · simp [lookup_step]
    · split
      · next same => subst same; simp [lookup_step]; split <;> rfl
      · next notSame =>
        rw [lookup_step, lookup_step, ih]
        by_cases h : other = key
        · simp [h, notSame]
        · simp [h]

@[simp]
theorem get?_insert (map : Dict α) (key other : String) (value : α) :
    (map.insert key value).get? other = if other = key then some value else map.get? other :=
  lookup_insertEntry key other value map.entries

end Dict

end BlockTemplates
