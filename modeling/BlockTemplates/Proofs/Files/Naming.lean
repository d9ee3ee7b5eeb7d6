import Mathlib.Logic.Relation
import BlockTemplates.Proofs.Files.Entry

/-! Template names and the paths that they stand for. The name of a file and the suffix lead from the
folder back to the file, and a name is that of one file only, however its path is written. Main
statements: `components_eq_iff` and `templateName?_roundTrip`. -/

namespace BlockTemplates

open Relation

namespace Path

variable {folder path other : Path} {outer inner : List Component}

/-- Two ways to write a path that make no difference. -/
inductive Alike : Path → Path → Prop
  | slashes (before after : String) : Alike ⟨before ++ "//" ++ after⟩ ⟨before ++ "/" ++ after⟩
  | dot (before after : String) : Alike ⟨before ++ "/./" ++ after⟩ ⟨before ++ "/" ++ after⟩
  | lastDot (before : String) : Alike ⟨before ++ "/."⟩ ⟨before ++ "/"⟩
  | lastSlash (before : String) (begun : before ≠ "") : Alike ⟨before ++ "/"⟩ ⟨before⟩

section Spelling

variable {before : List String} {piece : String}

theorem intercalate_pieces (path : Path) : "/".intercalate path.pieces = path.text := by
  rw [← String.toList_inj, String.toList_intercalate, pieces, List.map_map, Text.splitBy_eq_splitOnP]
  simp only [Function.comp_def, String.toList_ofList, List.map_id']
  exact List.intercalate_splitOn '/'

theorem map_text_filterMap {pieces : List String} (solid : ∀ piece ∈ pieces, component? piece ≠ none) :
    (pieces.filterMap component?).map Component.text = pieces := by
  induction pieces with
  | nil => rfl
  | cons piece pieces ih =>
    rw [List.forall_mem_cons] at solid
    obtain ⟨component, read⟩ := Option.ne_none_iff_exists'.mp solid.1
    rw [List.filterMap_cons_some read, List.map_cons, text_of_component? read, ih solid.2]

theorem ofComponents_of_head (relative : outer.head? ≠ some .root) : ofComponents outer = ⟨joinText outer⟩ := by
  unfold ofComponents
  split
  · exact absurd rfl relative
  · rfl

/-- The components of a path spell it when each piece behind the first makes a difference. -/
theorem ofComponents_components {pieces : List String} (whole : path.pieces = piece :: pieces)
    (solid : ∀ piece ∈ pieces, component? piece ≠ none) : ofComponents path.components = path := by
  have spelled := intercalate_pieces path
  have kept := map_text_filterMap solid
  rw [whole] at spelled
  by_cases absolute : path.isAbsolute = true
  · obtain rfl : piece = "" := by simpa [whole] using head?_pieces absolute
    obtain ⟨second, others, rfl⟩ : ∃ second others, pieces = second :: others := by
      refine List.exists_cons_of_ne_nil fun none => ?_
      simp [isAbsolute, ← spelled, none] at absolute
    have rooted : path.components = .root :: (second :: others).filterMap component? := by
      unfold components
      rw [if_pos absolute, whole]
      rfl
    rw [rooted, ofComponents, joinText, kept]
    rw [String.intercalate_cons_cons, String.empty_append] at spelled
    exact congrArg mk spelled
  · have bare : ofComponents path.components = ⟨joinText path.components⟩ :=
      ofComponents_of_head (mt isAbsolute_iff.mpr absolute)
    rw [bare]
    refine congrArg mk (Eq.trans ?_ spelled)
    cases read : component? piece with
    | some component =>
      have filled : piece ≠ "" ∧ piece ≠ "." := by
        rw [← not_or, ← component?_eq_none_iff, read]
        exact nofun
      rw [components_of_head whole filled.1 filled.2, List.filterMap_cons_some read, joinText, List.map_cons,
        kept, text_of_component? read]
    | none =>
      rcases component?_eq_none_iff.mp read with rfl | rfl
      · cases pieces with
        | nil =>
          obtain ⟨text⟩ := path
          obtain rfl := spelled
          rfl
        | cons second others => exact absurd (by simp [isAbsolute, ← spelled]) absolute
      · have dotted : path.components = .here :: pieces.filterMap component? := by
          unfold components
          rw [if_neg absolute, whole]
          rfl
        rw [dotted, joinText, List.map_cons, kept]
        rfl

theorem append_slashes (begun after : String) :
    begun ++ "//" ++ after = begun ++ "/" ++ ("" ++ "/" ++ after) := by
  rw [← String.toList_inj]
  simp

theorem append_dot (begun after : String) :
    begun ++ "/./" ++ after = begun ++ "/" ++ ("." ++ "/" ++ after) := by
  rw [← String.toList_inj]
  simp

/-- A path with a piece that makes no difference can be written shorter, unless it is the root. -/
theorem exists_shorter {blank : String} {pieces : List String}
    (whole : path.pieces = piece :: before ++ blank :: pieces) (empty : component? blank = none) :
    path = ⟨"/"⟩ ∨ ∃ other, Alike path other ∧ other.text.length < path.text.length := by
  have spelled := intercalate_pieces path
  rw [whole, String.intercalate_append_of_ne_nil (List.cons_ne_nil _ _) (List.cons_ne_nil _ _)] at spelled
  generalize "/".intercalate (piece :: before) = begun at spelled
  obtain ⟨text⟩ := path
  obtain rfl := spelled
  cases pieces with
  | nil =>
    rw [String.intercalate_singleton]
    rcases component?_eq_none_iff.mp empty with rfl | rfl
    · rw [String.append_empty]
      by_cases none : begun = ""
      · exact .inl (by rw [none]; rfl)
      · refine .inr ⟨_, .lastSlash begun none, ?_⟩
        rw [String.length_append]
        exact Nat.lt_add_of_pos_right (by decide)
    · rw [String.append_assoc]
      refine .inr ⟨_, .lastDot begun, ?_⟩
      rw [String.length_append, String.length_append]
      exact Nat.add_lt_add_left (by decide) _
  | cons second others =>
    rw [String.intercalate_cons_cons]
    rcases component?_eq_none_iff.mp empty with rfl | rfl
    · rw [← append_slashes]
      refine .inr ⟨_, .slashes begun _, ?_⟩
      simp only [String.length_append]
      exact Nat.add_lt_add_right (Nat.add_lt_add_left (by decide) _) _
    · rw [← append_dot]
      refine .inr ⟨_, .dot begun _, ?_⟩
      simp only [String.length_append]
      exact Nat.add_lt_add_right (Nat.add_lt_add_left (by decide) _) _

theorem components_slash (begun after : String) :
    components ⟨begun ++ "/" ++ after⟩ =
      components ⟨begun ++ "/"⟩ ++ (pieces ⟨after⟩).filterMap component? := by
  have spelled : (begun ++ "/" ++ after).toList = begun.toList ++ '/' :: after.toList := by simp
  have outer : String.ofList (begun.toList ++ ['/']) = begun ++ "/" := by
    rw [← String.toList_inj]
    simp
  rw [components_of_append after.toList spelled, outer, String.ofList_toList]

theorem components_skip {blank : String} (single : '/' ∉ blank.toList) (empty : component? blank = none)
    (begun after : String) :
    components ⟨begun ++ "/" ++ (blank ++ "/" ++ after)⟩ = components ⟨begun ++ "/" ++ after⟩ := by
  have spelled : (blank ++ "/" ++ after).toList = blank.toList ++ '/' :: after.toList := by simp
  rw [components_slash, components_slash, pieces_of_append after.toList spelled, String.ofList_toList,
    String.ofList_toList, pieces_name single, List.filterMap_append, List.filterMap_cons, empty]
  rfl

theorem Alike.components_eq (alike : Alike path other) : path.components = other.components := by
  cases alike with
  | slashes begun after =>
    rw [append_slashes]
    exact components_skip (by decide) rfl begun after
  | dot begun after =>
    rw [append_dot]
    exact components_skip (by decide) rfl begun after
  | lastDot begun =>
    have spelled : begun ++ "/." = begun ++ "/" ++ "." := by
      rw [← String.toList_inj]
      simp
    rw [spelled, components_slash]
    exact List.append_nil _
  | lastSlash begun filled =>
    have begins : begun.toList ≠ [] := by rwa [Ne, String.toList_eq_nil_iff]
    have shorter := components_lastSlash begins
    have outer : String.ofList (begun.toList ++ ['/']) = begun ++ "/" := by
      rw [← String.toList_inj]
      simp
    rwa [outer, String.ofList_toList] at shorter

/-- By induction on the length of the text, as a piece that makes no difference is taken out. -/
theorem alike_ofComponents (path : Path) : EqvGen Alike path (ofComponents path.components) := by
  induction size : path.text.length using Nat.strongRecOn generalizing path with
  | _ n ih =>
    obtain ⟨piece, pieces, whole⟩ := List.exists_cons_of_ne_nil (pieces_ne_nil path)
    by_cases blank : ∃ piece ∈ pieces, component? piece = none
    · obtain ⟨blank, inside, empty⟩ := blank
      obtain ⟨before, after, rfl⟩ := List.append_of_mem inside
      rcases exists_shorter whole empty with rfl | ⟨other, alike, shorter⟩
      · exact .refl _
      · rw [alike.components_eq]
        exact .trans _ _ _ (.rel _ _ alike) (ih _ (size ▸ shorter) other rfl)
    · rw [ofComponents_components whole fun piece inside empty => blank ⟨piece, inside, empty⟩]
      exact .refl path

/-- Paths have the same components exactly when one can be rewritten into the other without making
a difference. -/
theorem components_eq_iff : path.components = other.components ↔ EqvGen Alike path other := by
  constructor
  · intro same
    have alike := alike_ofComponents other
    rw [← same] at alike
    exact .trans _ _ _ (alike_ofComponents path) (.symm _ _ alike)
  · intro alike
    induction alike with
    | rel path other alike => exact alike.components_eq
    | refl path => rfl
    | symm path other _ ih => exact ih.symm
    | trans path middle other _ _ ih ih' => exact ih.trans ih'

end Spelling

section Components

theorem Proper.plain_of_append (proper : Proper (outer ++ inner)) (filled : outer ≠ []) :
    ∀ component ∈ inner, component.Plain := by
  obtain ⟨lead, rest, whole, leading, plain⟩ := proper
  obtain ⟨first, outer, rfl⟩ := List.exists_cons_of_ne_nil filled
  have later : inner <:+ rest := by
    cases leading with
    | none => exact ⟨first :: outer, whole⟩
    | root => exact ⟨outer, (List.cons.inj whole).2⟩
    | here => exact ⟨outer, (List.cons.inj whole).2⟩
  exact fun component found => plain component (later.mem found)

theorem components_ne_nil (filled : folder.text.isEmpty = false) : folder.components ≠ [] := by
  intro none
  have relative : ¬ folder.isAbsolute = true := by
    rw [isAbsolute_iff, none]
    exact nofun
  obtain ⟨piece, pieces, whole⟩ := List.exists_cons_of_ne_nil (pieces_ne_nil folder)
  have spelled := intercalate_pieces folder
  rw [whole] at spelled
  have solid : piece ≠ "" := by
    rintro rfl
    cases pieces with
    | nil => simp [← spelled] at filled
    | cons second others => exact relative (by simp [isAbsolute, ← spelled])
  by_cases dotted : piece = "."
  · unfold components at none
    rw [if_neg relative, whole, dotted, List.head?_cons, if_pos rfl] at none
    cases none
  · rw [components_of_head whole solid dotted, List.filterMap_cons] at none
    cases read : component? piece with
    | none => exact (component?_eq_none_iff.mp read).elim solid dotted
    | some component =>
      rw [read] at none
      cases none

theorem join_of_isEmpty (empty : folder.text.isEmpty = true) (path : Path) : folder.join path = path := by
  unfold join
  rw [empty, Bool.true_or, if_pos rfl]
  split
  · rfl
  · rw [String.isEmpty_iff.mp empty, String.empty_append]

theorem components_join_plain (filled : folder.text.isEmpty = false)
    (plain : ∀ component ∈ inner, component.Plain) :
    (folder.join ⟨joinText inner⟩).components = folder.components ++ inner := by
  have whole := components_joinText_plain plain
  have relative : isAbsolute ⟨joinText inner⟩ = false := by
    rw [Bool.eq_false_iff, Ne, isAbsolute_iff, whole]
    exact fun first => absurd (plain _ (List.mem_of_head? first)).isPlain (by decide)
  have kept : inner.filter Component.isPlain = inner :=
    List.filter_eq_self.mpr fun component found => (plain component found).isPlain
  rw [components_join filled relative, ← filter_components, whole, kept]

theorem components_join_below (below : path.components = folder.components ++ inner) :
    (folder.join ⟨joinText inner⟩).components = path.components := by
  have proper := proper_components path
  rw [below] at proper ⊢
  cases empty : folder.text.isEmpty with
  | true =>
    have bare : folder.components = [] := by
      rw [String.isEmpty_iff] at empty
      obtain rfl : folder = ⟨""⟩ := congrArg mk empty
      rfl
    rw [bare, List.nil_append] at proper ⊢
    rw [join_of_isEmpty empty, components_joinText proper]
  | false => exact components_join_plain empty (proper.plain_of_append (components_ne_nil empty))

end Components

end Path

/-- A file has a template name exactly when its components below the folder spell the name and the suffix.
The folder, the name and the suffix then lead to the components of the file, and the files with this name
are those with these components. Components are what a path says when slashes and single dots that make
no difference are left out. -/
theorem templateName?_roundTrip (folder path : Path) (suffix name : String) :
    (templateName? folder path suffix = some name ↔
      ∃ inner, path.components = folder.components ++ inner ∧ Path.joinText inner = name ++ suffix ∧
        name ≠ "" ∧ name.toList.getLast? ≠ some '/') ∧
      (templateName? folder path suffix = some name →
        (folder.join ⟨name ++ suffix⟩).components = path.components ∧
          ∀ other, templateName? folder other suffix = some name ↔ other.components = path.components) ∧
      ∀ first second : Path, first.components = second.components ↔ EqvGen Path.Alike first second := by
  refine ⟨templateName?_eq_some_iff, fun named => ⟨?_, fun other => ⟨?_, fun same => ?_⟩⟩,
    fun _ _ => Path.components_eq_iff⟩
  · obtain ⟨inner, below, spelled, -⟩ := templateName?_eq_some_iff.mp named
    rw [← spelled]
    exact Path.components_join_below below
  · exact fun named' => components_eq_of_templateName? named' named
  · rw [templateName?_eq_some_iff] at named ⊢
    rwa [same]

/-- The folder is written with a dot and slashes that make no difference, and the name keeps dots. -/
theorem templateName?_roundTrip_up :
    (Path.join ⟨"./site//"⟩ ⟨"../a.b" ++ ".html"⟩).components = Path.components ⟨"./site/./..//a.b.html/"⟩ ∧
      ∀ other, templateName? ⟨"./site//"⟩ other ".html" = some "../a.b" ↔
        other.components = Path.components ⟨"./site/./..//a.b.html/"⟩ :=
  (templateName?_roundTrip ⟨"./site//"⟩ ⟨"./site/./..//a.b.html/"⟩ ".html" "../a.b").2.1 (by decide +kernel)

end BlockTemplates
