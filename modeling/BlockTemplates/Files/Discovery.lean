import BlockTemplates.Files.Exclusion
import BlockTemplates.Files.FileSystem

/-! The template files below a folder. A walk enters every folder that is not left out, links
included; a folder inside of itself is an error. Since a walk never enters a folder inside of
itself, it ends: the folders that it can still enter become fewer. -/

namespace BlockTemplates

namespace Node

mutual

def places : Node → List Place
  | folder entries => [] :: entryPlaces entries
  | _ => [[]]

def entryPlaces : List (String × Node) → List Place
  | [] => []
  | (name, node) :: rest => (places node).map (name :: ·) ++ entryPlaces rest

end

theorem mem_entryPlaces {entries : List (String × Node)} {name : String} {node : Node} {place : Place}
    (found : entries.lookup name = some node) (inside : place ∈ places node) :
    name :: place ∈ entryPlaces entries := by
  induction entries with
  | nil => simp at found
  | cons entry rest ih =>
    obtain ⟨key, value⟩ := entry
    simp only [List.lookup_cons] at found
    simp only [entryPlaces, List.mem_append]
    split at found
    · next same =>
      obtain rfl : value = node := by simpa using found
      obtain rfl : name = key := by simpa using same
      exact .inl (List.mem_map_of_mem inside)
    · exact .inr (ih found)

theorem mem_places {node found : Node} {place : Place} (h : node.get? place = some found) :
    place ∈ places node := by
  induction place generalizing node with
  | nil => cases node <;> simp [places]
  | cons name rest ih =>
    cases node with
    | folder entries =>
      simp only [get?, Option.bind_eq_some_iff] at h
      obtain ⟨inner, first, later⟩ := h
      exact List.mem_cons_of_mem _ (mem_entryPlaces first (ih later))
    | file content => simp [get?] at h
    | link target => simp [get?] at h

end Node

/-- The places of a file system at which a walk has not been yet. -/
def unvisited (files : FileSystem) (ancestors : List Place) : List Place :=
  files.root.places.filter (fun place => !ancestors.contains place)

theorem unvisited_lt {files : FileSystem} {ancestors : List Place} {place : Place} {node : Node}
    (exists_ : files.node? place = some node) (new : ancestors.contains place = false) :
    (unvisited files (place :: ancestors)).length < (unvisited files ancestors).length := by
  have present : place ∈ unvisited files ancestors := by
    simp only [unvisited, List.mem_filter, new, Bool.not_false, and_true]
    exact Node.mem_places exists_
  have same : unvisited files (place :: ancestors) = (unvisited files ancestors).filter (· != place) := by
    simp only [unvisited, List.filter_filter]
    apply List.filter_congr
    intro other _
    by_cases h : other = place <;> simp [h]
  rw [same]
  exact List.length_filter_lt_length_iff_exists.mpr ⟨place, present, by simp⟩

/-- What a walk looks for: files with names that end in a suffix. What is left out may depend on
whether a path leads to a folder. -/
structure Search where
  suffix : String
  ignores : Path → Bool → Bool

/-- The files that a search finds in a folder and below it. `ancestors` are the folders that the
walk is in. -/
def walk (files : FileSystem) (search : Search) (ancestors : List Place) (folder : Path) :
    Result (List Path) :=
  match files.resolve folder with
  | .error error => .error (.io error)
  | .ok place =>
    match _seen : ancestors.contains place with
    | true => .error (.symlinkCycle folder.text)
    | false =>
      match _found : files.node? place with
      | some (.folder entries) => do
        let paths ← entries.mapM fun entry => do
          let path := folder.join ⟨entry.1⟩
          let isFolder := files.isFolder path
          if search.ignores path isFolder then return []
          else if isFolder then walk files search (place :: ancestors) path
          else if (Text.stripEnd? search.suffix.toList entry.1.toList).isSome then return [path]
          else return []
        return paths.flatten
      | _ => .error (.io .notADirectory)
termination_by (unvisited files ancestors).length
decreasing_by exact unvisited_lt _found _seen

structure TemplateFile where
  name : String
  path : Path
  deriving Repr, DecidableEq, Inhabited

/-- The name of the template in a file below a folder: the path from the folder on without the
suffix. -/
def templateName? (folder path : Path) (suffix : String) : Option String := do
  let components ← folder.below? path
  let name ← Text.stripEnd? suffix.toList (Path.joinText components).toList
  if name.isEmpty || name.getLast? = some '/' then none else some (String.ofList name)

structure BuildOptions where
  suffix : String := ".tmpl.html"
  minified : Bool := false
  exclude : List String := []
  deriving Repr, DecidableEq, Inhabited

def gather (files : FileSystem) (search : Search) (folder : Path) : Result (List TemplateFile) := do
  let paths ← walk files search [] folder
  let found := paths.filterMap (fun path =>
    (templateName? folder path search.suffix).map (fun name => TemplateFile.mk name path))
  return found.mergeSort (fun a b => decide (a.name ≤ b.name))

def discover (files : FileSystem) (options : BuildOptions) (folder : Path) : Result (List TemplateFile) := do
  if !files.isFolder folder then throw (.templateFolderInvalid folder.text)
  let exclusion ← Exclusion.ofPatterns folder options.exclude
  gather files ⟨options.suffix, exclusion.ignores⟩ folder

end BlockTemplates
