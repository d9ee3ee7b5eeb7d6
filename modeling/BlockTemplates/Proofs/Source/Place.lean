import BlockTemplates.Source.Split

/-! Places in a source, counted in lines and characters. Main statements: `afterAll_placeAfter`, a place
reached by walking over a text is told by its line breaks and its last line, and
`Position.afterAll_behind`, what a text standing before another one adds to the places in it. -/

namespace BlockTemplates.Source

def lastLine (text : List Char) : List Char := (text.reverse.takeWhile (· ≠ '\n')).reverse

/-- The place behind a text, which has one line more than line breaks. -/
def placeAfter (text : List Char) : Position := ⟨text.count '\n' + 1, (lastLine text).length + 1⟩

/-- A place of a text as it is counted when `before` stands in front of the text. -/
def Position.behind (place : Position) (before : List Char) : Position where
  line := before.count '\n' + place.line
  column := if place.line = 1 then (lastLine before).length + place.column else place.column

theorem lastLine_append_singleton (text : List Char) (c : Char) :
    lastLine (text ++ [c]) = if c = '\n' then [] else lastLine text ++ [c] := by
  unfold lastLine
  rw [List.reverse_append, List.reverse_singleton, List.singleton_append, List.takeWhile_cons]
  split <;> simp_all

theorem placeAfter_append_singleton (text : List Char) (c : Char) :
    placeAfter (text ++ [c]) = (placeAfter text).after c := by
  unfold placeAfter Position.after
  rw [lastLine_append_singleton, List.count_append, List.count_singleton]
  split <;> simp_all

theorem afterAll_placeAfter (text more : List Char) :
    (placeAfter text).afterAll more = placeAfter (text ++ more) := by
  induction more generalizing text with
  | nil => rw [List.append_nil, Position.afterAll, List.foldl_nil]
  | cons c more ih =>
    rw [Position.afterAll, List.foldl_cons, ← placeAfter_append_singleton, ← Position.afterAll, ih,
      List.append_assoc, List.singleton_append]

namespace Position

theorem line_le_after (place : Position) (c : Char) : place.line ≤ (place.after c).line := by
  unfold after
  split
  · exact Nat.le_succ _
  · exact Nat.le_refl _

theorem line_le_afterAll (place : Position) (text : List Char) : place.line ≤ (place.afterAll text).line := by
  induction text generalizing place with
  | nil => exact Nat.le_refl _
  | cons c text ih => exact Nat.le_trans (line_le_after place c) (ih _)

theorem after_behind {place : Position} (counted : 1 ≤ place.line) (before : List Char) (c : Char) :
    (place.behind before).after c = (place.after c).behind before := by
  unfold after behind
  by_cases broken : c = '\n'
  · have later : place.line ≠ 0 := Nat.ne_of_gt counted
    simp [broken, later, Nat.add_assoc]
  · simp only [broken, if_false]
    split <;> rfl

theorem afterAll_behind {place : Position} (counted : 1 ≤ place.line) (before text : List Char) :
    (place.behind before).afterAll text = (place.afterAll text).behind before := by
  induction text generalizing place with
  | nil => rfl
  | cons c text ih =>
    have counted' : 1 ≤ (place.after c).line :=
      Nat.le_trans counted (line_le_after place c)
    rw [afterAll, List.foldl_cons, after_behind counted, ← afterAll, ih counted']
    rfl

end Position

end BlockTemplates.Source
