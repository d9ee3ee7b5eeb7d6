import BlockTemplates.Files.Discovery

/-! Paths and their components. The components of a path, and any of them from some place on, are
the components of the path that they spell; so a template name stands for the components of one path
only. Main statements: `components_joinText` and `components_eq_of_templateName?`. -/

namespace BlockTemplates

theorem Text.splitBy_eq_splitOnP (p : Char → Bool) (s : List Char) : splitBy p s = s.splitOnP p := by
  induction s with
  | nil => rfl
  | cons c s ih =>
    rw [splitBy, List.splitOnP_cons_eq_if_modifyHead, ih]
    cases pieces : s.splitOnP p with
    | nil => exact absurd pieces (List.splitOnP_ne_nil p s)
    | cons piece others => rfl

theorem Text.not_of_mem_splitBy {p : Char → Bool} {s piece : List Char} (found : piece ∈ splitBy p s) :
    ∀ c ∈ piece, p c = false := by
  induction s generalizing piece with
  | nil =>
    obtain rfl := List.mem_singleton.mp found
    exact fun _ none => absurd none List.not_mem_nil
  | cons c s ih =>
    unfold splitBy at found
    split at found
    · rcases List.mem_cons.mp found with rfl | later
      · exact fun _ none => absurd none List.not_mem_nil
      · exact ih later
    · next other =>
      generalize pieces : splitBy p s = others at found ih
      cases others with
      | nil =>
        obtain rfl := List.mem_singleton.mp found
        simpa using other
      | cons first others =>
        rcases List.mem_cons.mp found with rfl | later
        · intro d inside
          rcases List.mem_cons.mp inside with rfl | inside
          · simpa using other
          · exact ih List.mem_cons_self d inside
        · exact ih (List.mem_cons_of_mem _ later)

namespace Path

def Component.Plain (component : Component) : Prop :=
  component? component.text = some component ∧ '/' ∉ component.text.toList

theorem component?_eq_none_iff {piece : String} : component? piece = none ↔ piece = "" ∨ piece = "." := by
  unfold component?
  split
  · next blank => exact iff_of_true rfl blank
  · next solid =>
    split
    · exact iff_of_false (fun none => nomatch none) solid
    · exact iff_of_false (fun none => nomatch none) solid

theorem text_of_component? {piece : String} {component : Component}
    (found : component? piece = some component) : component.text = piece := by
  unfold component? at found
  split at found
  · cases found
  · split at found
    · next up =>
      obtain rfl := Option.some.inj found
      exact up.symm
    · obtain rfl := Option.some.inj found
      rfl

theorem notMem_of_mem_pieces {path : Path} {piece : String} (found : piece ∈ path.pieces) :
    '/' ∉ piece.toList := by
  obtain ⟨chars, inside, rfl⟩ := List.mem_map.mp found
  intro slash
  rw [String.toList_ofList] at slash
  have other := Text.not_of_mem_splitBy inside '/' slash
  exact absurd other (by decide)

theorem plain_of_mem {path : Path} {component : Component}
    (found : component ∈ path.pieces.filterMap component?) : component.Plain := by
  obtain ⟨piece, inside, read⟩ := List.mem_filterMap.mp found
  have same := text_of_component? read
  constructor
  · rw [same, read]
  · rw [same]
    exact notMem_of_mem_pieces inside

def Component.isPlain : Component → Bool
  | root => false
  | here => false
  | _ => true

theorem Component.Plain.isPlain {component : Component} (plain : component.Plain) :
    component.isPlain = true := by
  cases component with
  | root => exact absurd plain.1 (by decide)
  | here => exact absurd plain.1 (by decide)
  | up => rfl
  | name s => rfl

theorem filter_plain (path : Path) :
    (path.pieces.filterMap component?).filter Component.isPlain = path.pieces.filterMap component? :=
  List.filter_eq_self.mpr fun _ found => (plain_of_mem found).isPlain

theorem filter_components (path : Path) :
    path.components.filter Component.isPlain = path.pieces.filterMap component? := by
  have plain := filter_plain path
  unfold components
  dsimp only
  split
  · exact plain
  · split
    · exact plain
    · exact plain

theorem isAbsolute_iff {path : Path} : path.isAbsolute = true ↔ path.components.head? = some .root := by
  have other : (path.pieces.filterMap component?).head? ≠ some .root := by
    intro first
    have plain := plain_of_mem (List.mem_of_head? first)
    exact absurd plain.isPlain (by decide)
  unfold components
  dsimp only
  split
  · next absolute => exact iff_of_true absolute rfl
  · next relative =>
    split
    · exact iff_of_false relative fun first => nomatch Option.some.inj first
    · exact iff_of_false relative other

/-- What may stand before the plain components of a path. -/
inductive Lead : List Component → Prop
  | none : Lead []
  | root : Lead [.root]
  | here : Lead [.here]

def Proper (components : List Component) : Prop :=
  ∃ lead rest, components = lead ++ rest ∧ Lead lead ∧ ∀ component ∈ rest, component.Plain

theorem proper_components (path : Path) : Proper path.components := by
  unfold components
  dsimp only
  split
  · exact ⟨[.root], _, rfl, .root, fun _ => plain_of_mem⟩
  · split
    · exact ⟨[.here], _, rfl, .here, fun _ => plain_of_mem⟩
    · exact ⟨[], _, rfl, .none, fun _ => plain_of_mem⟩

theorem Proper.drop {components : List Component} (proper : Proper components) (n : Nat) :
    Proper (components.drop n) := by
  obtain ⟨lead, rest, rfl, leading, plain⟩ := proper
  cases n with
  | zero => exact ⟨lead, rest, rfl, leading, plain⟩
  | succ n =>
    refine ⟨[], (lead ++ rest).drop (n + 1), rfl, .none, fun component found => plain component ?_⟩
    cases leading with
    | none => exact List.mem_of_mem_drop found
    | root => exact List.mem_of_mem_drop found
    | here => exact List.mem_of_mem_drop found

section Spelling

variable {rest : List Component}

theorem toList_joinText (components : List Component) :
    (joinText components).toList = ['/'].intercalate (components.map fun component => component.text.toList) := by
  unfold joinText
  rw [String.toList_intercalate, List.map_map]
  rfl

theorem pieces_joinText {components : List Component} (filled : components ≠ [])
    (single : ∀ component ∈ components, '/' ∉ component.text.toList) :
    pieces ⟨joinText components⟩ = components.map Component.text := by
  have free : ∀ text ∈ components.map fun component => component.text.toList, '/' ∉ text := by
    intro text found
    obtain ⟨component, inside, rfl⟩ := List.mem_map.mp found
    exact single component inside
  have split : Text.splitBy (· = '/') (joinText components).toList =
      components.map fun component => component.text.toList := by
    rw [Text.splitBy_eq_splitOnP, toList_joinText]
    exact List.splitOn_intercalate '/' free (by simpa using filled)
  unfold pieces
  rw [split, List.map_map]
  apply List.map_congr_left
  intro component _
  exact String.ofList_toList

theorem filterMap_text (plain : ∀ component ∈ rest, component.Plain) :
    (rest.map Component.text).filterMap component? = rest := by
  induction rest with
  | nil => rfl
  | cons component rest ih =>
    rw [List.map_cons, List.filterMap_cons, (plain component List.mem_cons_self).1]
    exact congrArg _ (ih fun other found => plain other (List.mem_cons_of_mem _ found))

theorem head?_pieces {path : Path} (absolute : path.isAbsolute = true) : path.pieces.head? = some "" := by
  unfold isAbsolute at absolute
  unfold pieces
  cases spelled : path.text.toList with
  | nil => simp [spelled] at absolute
  | cons c rest =>
    obtain rfl : c = '/' := by simpa [spelled] using absolute
    rfl

theorem components_of_head {path : Path} {piece : String} {pieces : List String}
    (whole : path.pieces = piece :: pieces) (filled : piece ≠ "") (other : piece ≠ ".") :
    path.components = (piece :: pieces).filterMap component? := by
  have relative : ¬ path.isAbsolute = true := by
    intro absolute
    have empty := head?_pieces absolute
    rw [whole] at empty
    exact filled (Option.some.inj empty)
  unfold components
  dsimp only
  rw [if_neg relative, whole]
  rw [if_neg]
  exact fun same => other (Option.some.inj same)

theorem components_joinText_plain (plain : ∀ component ∈ rest, component.Plain) :
    components ⟨joinText rest⟩ = rest := by
  cases rest with
  | nil => rfl
  | cons first others =>
    have whole := pieces_joinText (List.cons_ne_nil first others) fun component found =>
      (plain component found).2
    have read := (plain first List.mem_cons_self).1
    rw [List.map_cons] at whole
    rw [components_of_head whole, ← List.map_cons, filterMap_text plain]
    · intro empty
      rw [empty] at read
      cases read
    · intro dot
      rw [dot] at read
      cases read

theorem components_joinText_here (plain : ∀ component ∈ rest, component.Plain) :
    components ⟨joinText (.here :: rest)⟩ = .here :: rest := by
  have whole : pieces ⟨joinText (.here :: rest)⟩ = "." :: rest.map Component.text := by
    apply pieces_joinText (List.cons_ne_nil _ _)
    intro component found
    rcases List.mem_cons.mp found with rfl | found
    · decide
    · exact (plain component found).2
  have relative : ¬ isAbsolute ⟨joinText (.here :: rest)⟩ = true := by
    intro absolute
    have empty := head?_pieces absolute
    rw [whole] at empty
    exact absurd (Option.some.inj empty) (by decide)
  unfold components
  dsimp only
  rw [if_neg relative, whole, List.head?_cons, if_pos rfl]
  exact congrArg _ (filterMap_text plain)

theorem components_joinText_root (plain : ∀ component ∈ rest, component.Plain) :
    components ⟨joinText (.root :: rest)⟩ = .root :: rest := by
  have spelled : (joinText (.root :: rest)).toList =
      if rest = [] then ['/'] else '/' :: '/' :: (joinText rest).toList := by
    rw [toList_joinText, toList_joinText]
    cases rest with
    | nil => rfl
    | cons first others => rfl
  have absolute : isAbsolute ⟨joinText (.root :: rest)⟩ = true := by
    unfold isAbsolute
    rw [spelled]
    split <;> rfl
  have whole : (pieces ⟨joinText (.root :: rest)⟩).filterMap component? = rest := by
    unfold pieces
    rw [spelled]
    split
    · next empty => rw [empty]; rfl
    · next filled =>
      have inner := pieces_joinText filled fun component found => (plain component found).2
      change ("" :: "" :: pieces ⟨joinText rest⟩).filterMap component? = rest
      rw [inner]
      exact filterMap_text plain
  unfold components
  dsimp only
  rw [if_pos absolute, whole]

end Spelling

theorem components_joinText {components : List Component} (proper : Proper components) :
    Path.components ⟨joinText components⟩ = components := by
  obtain ⟨lead, rest, rfl, leading, plain⟩ := proper
  cases leading with
  | none => exact components_joinText_plain plain
  | root => exact components_joinText_root plain
  | here => exact components_joinText_here plain

theorem below?_eq_some_iff {folder path : Path} {inner : List Component} :
    folder.below? path = some inner ↔ path.components = folder.components ++ inner := by
  unfold below?
  dsimp only
  split
  · next outer =>
    obtain ⟨others, whole⟩ := List.isPrefixOf_iff_prefix.mp outer
    rw [← whole, List.drop_left, Option.some.injEq, List.append_cancel_left_eq]
  · next other =>
    constructor
    · intro found
      cases found
    · intro whole
      exact absurd (List.isPrefixOf_iff_prefix.mpr ⟨inner, whole.symm⟩) other

end Path

theorem templateName?_eq_some_iff {folder path : Path} {suffix name : String} :
    templateName? folder path suffix = some name ↔
      ∃ inner, path.components = folder.components ++ inner ∧ Path.joinText inner = name ++ suffix ∧
        name ≠ "" ∧ name.toList.getLast? ≠ some '/' := by
  unfold templateName?
  simp only [Option.bind_eq_bind, Option.bind_eq_some_iff, Path.below?_eq_some_iff,
    Text.stripEnd?_eq_some_iff]
  constructor
  · rintro ⟨inner, whole, chars, spelled, named⟩
    split at named
    · cases named
    · next kept =>
      obtain rfl := Option.some.inj named
      simp only [Bool.or_eq_true, List.isEmpty_iff, decide_eq_true_eq, not_or] at kept
      refine ⟨inner, whole, ?_, ?_, ?_⟩
      · rw [← String.toList_inj, String.toList_append, String.toList_ofList, spelled]
      · rw [Ne, ← String.toList_inj, String.toList_ofList]
        exact kept.1
      · rw [String.toList_ofList]
        exact kept.2
  · rintro ⟨inner, whole, spelled, filled, last⟩
    refine ⟨inner, whole, name.toList, ?_, ?_⟩
    · rw [spelled, String.toList_append]
    · rw [if_neg, String.ofList_toList]
      simp only [Bool.or_eq_true, List.isEmpty_iff, decide_eq_true_eq, not_or]
      exact ⟨fun empty => filled (String.toList_inj.mp empty), last⟩

/-- Paths with one template name below a folder have the same components. -/
theorem components_eq_of_templateName? {folder path path' : Path} {suffix name : String}
    (named : templateName? folder path suffix = some name)
    (named' : templateName? folder path' suffix = some name) : path.components = path'.components := by
  obtain ⟨inner, whole, spelled, -⟩ := templateName?_eq_some_iff.mp named
  obtain ⟨inner', whole', spelled', -⟩ := templateName?_eq_some_iff.mp named'
  have proper {path : Path} {inner : List Path.Component}
      (whole : path.components = folder.components ++ inner) : Path.Proper inner := by
    have below := (Path.proper_components path).drop folder.components.length
    rwa [whole, List.drop_left] at below
  have same : inner = inner' := by
    rw [← Path.components_joinText (proper whole), ← Path.components_joinText (proper whole'), spelled,
      spelled']
  rw [whole, whole', same]

end BlockTemplates
