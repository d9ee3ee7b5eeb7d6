import BlockTemplates.Expr.Value

/-! How much calling the functions in a value can lead to. Data holds no functions. -/

namespace BlockTemplates.Expr

namespace Callable

/-- How much further calling a function can lead to. -/
def weight : Callable → Nat
  | builtin _ => 2
  | host _ => 2
  | emitter _ => 1

end Callable

namespace Value

mutual

def weight : Value → Nat
  | function f => f.weight
  | list items => weightAll items
  | sequence _ items => weightAll items
  | table _ entries => weightEntries entries
  | _ => 0

def weightAll : List Value → Nat
  | [] => 0
  | value :: rest => weight value + weightAll rest

def weightEntries : List (Value × Value) → Nat
  | [] => 0
  | (key, value) :: rest => weight key + weight value + weightEntries rest

end

theorem weight_le_weightAll {value : Value} {values : List Value} (h : value ∈ values) :
    weight value ≤ weightAll values := by
  induction values with
  | nil => simp at h
  | cons first rest ih =>
    rcases List.mem_cons.mp h with rfl | h
    · simp [weightAll]
    · have := ih h
      simp only [weightAll]
      omega

theorem weightAll_keys_le (entries : List (Value × Value)) :
    weightAll (entries.map Prod.fst) ≤ weightEntries entries := by
  induction entries with
  | nil => simp [weightAll]
  | cons entry rest ih =>
    simp only [List.map_cons, weightAll, weightEntries]
    omega

theorem weightAll_texts (texts : List String) : weightAll (texts.map text) = 0 := by
  induction texts with
  | nil => rfl
  | cons s rest ih => simp [weightAll, weight, text, ih]

theorem weightAll_walk {value : Value} {items : List Value} (h : value.walk? = some items) :
    weightAll items ≤ weight value := by
  unfold walk? at h
  split at h
  all_goals simp only [Option.some.injEq, reduceCtorEq] at h
  all_goals subst h
  · simp [weightAll]
  · simp [weightAll]
  · next s =>
    have := weightAll_texts (s.toList.map String.singleton)
    simp only [List.map_map] at this
    exact Nat.le_of_eq (by simpa [Function.comp_def, weight] using this)
  · simp [weight]
  · simp [weight]
  · simpa [weight] using weightAll_keys_le _

mutual

theorem weight_ofData (data : Data) : weight (ofData data) = 0 := by
  cases data with
  | list items => simpa [ofData, weight] using weightAll_ofItems items
  | table entries => simpa [ofData, weight] using weightEntries_ofEntries entries
  | _ => simp [ofData, weight]

theorem weightAll_ofItems (items : List Data) : weightAll (ofItems items) = 0 := by
  cases items with
  | nil => simp [ofItems, weightAll]
  | cons item rest => simp [ofItems, weightAll, weight_ofData item, weightAll_ofItems rest]

theorem weightEntries_ofEntries (entries : List (String × Data)) :
    weightEntries (ofEntries entries) = 0 := by
  cases entries with
  | nil => simp [ofEntries, weightEntries]
  | cons entry rest =>
    simp [ofEntries, weightEntries, weight, weight_ofData entry.2, weightEntries_ofEntries rest]

end

def ofData? (data : Option Data) : Value :=
  match data with
  | some data => ofData data
  | .none => undefined

theorem weight_ofData? (data : Option Data) : weight (ofData? data) = 0 := by
  cases data with
  | none => rfl
  | some data => exact weight_ofData data

end Value

end BlockTemplates.Expr
