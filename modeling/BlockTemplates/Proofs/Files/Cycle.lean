import BlockTemplates.Proofs.Files.Chain
import Mathlib.Data.Finset.Basic

/-! Walks with one set of ancestors. Each folder is added to the set when it is entered and taken away
when it is left, and nothing but the set keeps a walk from going round in circles. The set is the same
again after each folder, so that a walk is in a folder at most once at a time: it is nested no deeper
than there are places, and it reports a cycle only where a chain leads back. Main statements:
`ancestors_of_enter`, `carries_enter` and `walk_ends`. -/

namespace BlockTemplates

/-- What a walk carries along: the folders that it is in, those that it has entered so far, and the
files that it has found. -/
structure Walker where
  ancestors : Finset Place
  entered : List Path
  found : List Path

namespace Walker

def start : Walker := ⟨∅, [], []⟩

def leave (place : Place) : Option (Result Walker) → Option (Result Walker) :=
  Option.map (Except.map fun walker => { walker with ancestors := walker.ancestors.erase place })

section Definitions

variable (files : FileSystem) (search : Search)

def visit (enter : Path → Walker → Option (Result Walker)) (folder : Path) (name : String) (walker : Walker) :
    Option (Result Walker) :=
  let path := folder.join ⟨name⟩
  let isFolder := files.isFolder path
  if search.ignores path isFolder then some (.ok walker)
  else if isFolder then enter path walker
  else if (Text.stripEnd? search.suffix.toList name.toList).isSome then
    some (.ok { walker with found := walker.found ++ [path] })
  else some (.ok walker)

def visitAll (enter : Path → Walker → Option (Result Walker)) (folder : Path) :
    List String → Walker → Option (Result Walker)
  | [], walker => some (.ok walker)
  | name :: names, walker =>
    match visit files search enter folder name walker with
    | some (.ok walker) => visitAll enter folder names walker
    | stopped => stopped

/-- A folder is entered, and left once its entries have been looked at. There is no answer when folders
are nested deeper than allowed. -/
def enter : Nat → Path → Walker → Option (Result Walker)
  | 0, _, _ => none
  | depth + 1, folder, walker =>
    match files.resolve folder with
    | .error error => some (.error (.io error))
    | .ok place =>
      if place ∈ walker.ancestors then some (.error (.symlinkCycle folder.text))
      else
        match files.list folder with
        | .error error => some (.error (.io error))
        | .ok names => leave place (visitAll files search (enter depth) folder names
            ⟨insert place walker.ancestors, walker.entered ++ [folder], walker.found⟩)

end Definitions

variable {files : FileSystem} {search : Search} {folder : Path} {name : String} {names : List String}
  {walker walker' : Walker} {enter' : Path → Walker → Option (Result Walker)}

section Ancestors

theorem ancestors_of_visit
    (inner : ∀ path walker walker', enter' path walker = some (.ok walker') → walker'.ancestors = walker.ancestors)
    (visited : visit files search enter' folder name walker = some (.ok walker')) :
    walker'.ancestors = walker.ancestors := by
  unfold visit at visited
  dsimp only at visited
  split at visited
  · obtain rfl := Except.ok.inj (Option.some.inj visited)
    rfl
  · split at visited
    · exact inner _ _ _ visited
    · split at visited
      · obtain rfl := Except.ok.inj (Option.some.inj visited)
        rfl
      · obtain rfl := Except.ok.inj (Option.some.inj visited)
        rfl

theorem ancestors_of_visitAll
    (inner : ∀ path walker walker', enter' path walker = some (.ok walker') → walker'.ancestors = walker.ancestors)
    (visited : visitAll files search enter' folder names walker = some (.ok walker')) :
    walker'.ancestors = walker.ancestors := by
  induction names generalizing walker with
  | nil =>
    obtain rfl := Except.ok.inj (Option.some.inj visited)
    rfl
  | cons name names ih =>
    unfold visitAll at visited
    split at visited
    · next middle first => exact (ih visited).trans (ancestors_of_visit inner first)
    · next other => exact absurd visited (other walker')

theorem ancestors_of_enter {depth : Nat} (entered : enter files search depth folder walker = some (.ok walker')) :
    walker'.ancestors = walker.ancestors := by
  induction depth generalizing folder walker walker' with
  | zero => cases entered
  | succ depth ih =>
    unfold enter at entered
    split at entered
    · cases entered
    · next place led =>
      split at entered
      · cases entered
      · next new =>
        split at entered
        · cases entered
        · obtain ⟨left, visited, same⟩ := Option.map_eq_some_iff.mp entered
          cases left with
          | error failure => cases same
          | ok inner =>
            obtain rfl := Except.ok.inj same
            have kept := ancestors_of_visitAll (fun _ _ _ done => ih done) visited
            -- the place was not in the set before, so taking it away undoes adding it
            simp only [kept, Finset.erase_insert new]

end Ancestors

/-- What becomes of a walker where a part of the walk has an answer: it stops with the same failure, or
it has found the files, has entered the folders at the ends of some chains, and is in the same folders
as before. -/
inductive Carries (walker : Walker) (folder : Path) (chain : List String → Prop) :
    Result (List Path) → Option (Result Walker) → Prop
  | stopped (failure : Failure) : Carries walker folder chain (.error failure) (some (.error failure))
  | done {paths entered : List Path} (each : Enumerates folder chain entered) :
      Carries walker folder chain (.ok paths)
        (some (.ok ⟨walker.ancestors, walker.entered ++ entered, walker.found ++ paths⟩))

section Carries

variable {chain chain' : List String → Prop} {answer : Result (List Path)} {outcome : Option (Result Walker)}

theorem Carries.congr (same : ∀ names, chain names ↔ chain' names)
    (carries : Carries walker folder chain answer outcome) : Carries walker folder chain' answer outcome := by
  cases carries with
  | stopped failure => exact .stopped failure
  | done each => exact .done (each.congr same)

theorem Carries.under (carries : Carries walker (folder.join ⟨name⟩) chain answer outcome) :
    Carries walker folder (fun names => ∃ rest, names = name :: rest ∧ chain rest) answer outcome := by
  cases carries with
  | stopped failure => exact .stopped failure
  | done each => exact .done each.under

theorem Carries.nothing (none : ∀ names, ¬ chain names) (paths : List Path) :
    Carries walker folder chain (.ok paths)
      (some (.ok { walker with found := walker.found ++ paths })) := by
  have done : Carries walker folder chain (.ok paths)
      (some (.ok ⟨walker.ancestors, walker.entered ++ [], walker.found ++ paths⟩)) := .done (.nil none)
  rwa [List.append_nil] at done

theorem Carries.unchanged (none : ∀ names, ¬ chain names) :
    Carries walker folder chain (.ok []) (some (.ok walker)) := by
  have nothing : Carries walker folder chain (.ok []) _ := .nothing none []
  rwa [List.append_nil] at nothing

theorem visit_eq_chosen : visit files search enter' folder name walker =
    chosen files search folder name (some (.ok walker)) (enter' (folder.join ⟨name⟩) walker)
      (some (.ok { walker with found := walker.found ++ [folder.join ⟨name⟩] })) := rfl

theorem carries_visit {ancestors : List Place} (held : files.Holds folder name)
    (inner : Kept files search folder name true →
      Carries walker (folder.join ⟨name⟩) (FolderChain files search (folder.join ⟨name⟩))
        (walk files search ancestors (folder.join ⟨name⟩)) (enter' (folder.join ⟨name⟩) walker)) :
    Carries walker folder (fun names => names.head? = some name ∧ FolderChain files search folder names)
      (walkEntry files search ancestors folder name) (visit files search enter' folder name walker) := by
  have shape (names : List String) : names.head? = some name ∧ FolderChain files search folder names ↔
      ∃ rest, names = name :: rest ∧ Kept files search folder name true ∧
        FolderChain files search (folder.join ⟨name⟩) rest := by
    rw [List.head?_eq_some_iff, ← exists_and_right]
    refine exists_congr fun rest => and_congr_right fun whole => ?_
    rw [whole, folderChain_cons_iff]
  have none (other : ¬ Kept files search folder name true) (names : List String) :
      ¬ (names.head? = some name ∧ FolderChain files search folder names) := by
    rw [shape]
    exact fun ⟨_, _, entry, _⟩ => other entry
  rw [walkEntry_eq_chosen, visit_eq_chosen]
  cases choice search held with
  | entered entry same =>
    rw [same, same]
    refine (inner entry).under.congr fun names => ?_
    simp only [shape, entry, true_and]
  | taken entry _ same =>
    rw [same, same]
    exact .nothing (none fun folder => nomatch entry.kind.symm.trans folder.kind) [folder.join ⟨name⟩]
  | skipped noFolder _ same =>
    rw [same, same]
    exact .unchanged (none noFolder)

theorem Carries.after {paths entered : List Path} (first : Enumerates folder chain entered)
    (apart : ∀ names, chain names → ¬ chain' names)
    (carries : Carries ⟨walker.ancestors, walker.entered ++ entered, walker.found ++ paths⟩ folder chain' answer
      outcome) :
    Carries walker folder (fun names => chain names ∨ chain' names) (answer.map (paths ++ ·)) outcome := by
  cases carries with
  | stopped failure => exact .stopped failure
  | done each =>
    rw [List.append_assoc, List.append_assoc]
    exact .done (first.append each apart)

theorem carries_visitAll {ancestors : List Place} (single : names.Nodup)
    (steps : ∀ name ∈ names, ∀ walker' : Walker, walker'.ancestors = walker.ancestors →
      Carries walker' folder (fun chained => chained.head? = some name ∧ FolderChain files search folder chained)
        (walkEntry files search ancestors folder name) (visit files search enter' folder name walker')) :
    Carries walker folder
      (fun chained => ∃ name ∈ names, chained.head? = some name ∧ FolderChain files search folder chained)
      (do
        let groups ← names.mapM (walkEntry files search ancestors folder)
        return groups.flatten)
      (visitAll files search enter' folder names walker) := by
  induction names generalizing walker with
  | nil => exact .unchanged fun _ ⟨_, inside, _⟩ => List.not_mem_nil inside
  | cons name names ih =>
    obtain ⟨new, single⟩ := List.nodup_cons.mp single
    obtain ⟨first, rest⟩ := List.forall_mem_cons.mp steps
    have step := first walker rfl
    rw [List.mapM_cons]
    unfold visitAll
    generalize walkEntry files search ancestors folder name = answer at step
    generalize visit files search enter' folder name walker = outcome at step
    cases step with
    | stopped failure => exact .stopped failure
    | @done paths entered each =>
      have apart (chained : List String)
          (starts : chained.head? = some name ∧ FolderChain files search folder chained) :
          ¬ ∃ other ∈ names, chained.head? = some other ∧ FolderChain files search folder chained := by
        rintro ⟨other, inside, starts', -⟩
        obtain rfl := Option.some.inj (starts.1.symm.trans starts')
        exact new inside
      have later := (@ih ⟨walker.ancestors, walker.entered ++ entered, walker.found ++ paths⟩ single rest).after
        each apart
      have whole : (do
            let groups ← (do
              let group ← Except.ok paths
              let groups ← names.mapM (walkEntry files search ancestors folder)
              return group :: groups)
            return groups.flatten : Result (List Path)) =
          Except.map (paths ++ ·) (do
            let groups ← names.mapM (walkEntry files search ancestors folder)
            return groups.flatten) := by
        cases names.mapM (walkEntry files search ancestors folder) <;> rfl
      rw [whole]
      refine later.congr fun chained => ?_
      simp only [List.mem_cons, exists_eq_or_imp]

theorem Carries.leave {place : Place} (fresh : place ∉ walker.ancestors) (further : ¬ chain [])
    (carries : Carries ⟨insert place walker.ancestors, walker.entered ++ [folder], walker.found⟩ folder chain
      answer outcome) :
    Carries walker folder (fun names => names = [] ∨ chain names) answer (Walker.leave place outcome) := by
  cases carries with
  | stopped failure => exact .stopped failure
  | @done paths entered each =>
    have here : Enumerates folder (· = []) [folder.descend []] := .singleton fun _ => Iff.rfl
    have both := here.append each fun names none => by
      rw [none]
      exact further
    change Carries walker folder _ (.ok paths)
      (some (.ok ⟨(insert place walker.ancestors).erase place, walker.entered ++ [folder] ++ entered, _⟩))
    rw [Finset.erase_insert fresh, List.append_assoc]
    exact .done both

theorem folderChain_iff {place : Place} {entries : List (String × Node)} (led : files.resolve folder = .ok place)
    (held : files.node? place = some (.folder entries)) : FolderChain files search folder names ↔
      names = [] ∨ ∃ name ∈ entries.map Prod.fst, names.head? = some name ∧ FolderChain files search folder names := by
  constructor
  · intro chain
    cases chain with
    | here => exact .inl rfl
    | @down _ name _ entry rest =>
      exact .inr ⟨name, (FileSystem.holds_iff led held).mp entry.held, rfl, .down entry rest⟩
  · rintro (rfl | ⟨-, -, -, chain⟩)
    · exact .here folder
    · exact chain

/-- The walk of a folder is carried out when folders may be nested as deep as there are places at which
it has not been. -/
theorem carries_enter (named : files.Named) {ancestors : List Place} (isFolder : files.isFolder folder = true)
    (same : walker.ancestors = ancestors.toFinset) {depth : Nat}
    (deep : (unvisited files ancestors).length < depth) :
    Carries walker folder (FolderChain files search folder) (walk files search ancestors folder)
      (enter files search depth folder walker) := by
  induction depth generalizing ancestors folder walker with
  | zero => cases deep
  | succ depth ih =>
    obtain ⟨place, entries, led, held⟩ := FileSystem.isFolder_eq_true_iff.mp isFolder
    have seen : ancestors.contains place = true ↔ place ∈ walker.ancestors := by
      rw [same, List.mem_toFinset, List.contains_iff_mem]
    unfold enter
    simp only [led, FileSystem.list_eq led held]
    cases new : ancestors.contains place with
    | true =>
      rw [walk_of_contains led new, if_pos (seen.mp new)]
      exact .stopped _
    | false =>
      have fresh : place ∉ walker.ancestors := fun inside => nomatch new.symm.trans (seen.mpr inside)
      have smaller := unvisited_lt held new
      rw [if_neg fresh, walk_eq_walkEntry led new held]
      have further : ¬ ∃ name ∈ entries.map Prod.fst,
          ([] : List String).head? = some name ∧ FolderChain files search folder [] :=
        fun ⟨_, _, starts, _⟩ => nomatch starts
      refine (Carries.leave fresh further ?_).congr fun chained => (folderChain_iff led held).symm
      refine carries_visitAll (named.distinct place entries held) fun name inside walker' same' => ?_
      refine carries_visit ((FileSystem.holds_iff led held).mpr inside) fun entry => ?_
      exact ih entry.kind (by rw [same', same, List.toFinset_cons]) (by omega)

end Carries

end Walker

section Walk

variable {files : FileSystem} {search : Search} {root : Path}

theorem count_entered (named : files.Named) (filled : root.text.isEmpty = false) {entered : List Path}
    (each : Enumerates root (FolderChain files search root) entered) {names : List String}
    (chain : FolderChain files search root names) : entered.count (root.descend names) = 1 := by
  obtain ⟨chains, single, members, rfl⟩ := each
  have injective : ∀ names ∈ chains, ∀ names' ∈ chains,
      root.descend names = root.descend names' → names = names' :=
    fun names inside names' inside' same => eq_of_components_descend filled
      (((members names).mp inside).proper named) (((members names').mp inside').proper named)
      (congrArg Path.components same)
  refine List.count_eq_one_of_mem (single.map_on injective) ?_
  exact List.mem_map_of_mem ((members names).mpr chain)

/-- A walk comes to an end with its folders nested no deeper than there are places. It reports a cycle
exactly if a chain of folders leads back into a folder that it has passed, and otherwise it succeeds and
has entered the folder at the end of each chain once; after each folder it is in the same folders as
before. -/
theorem walk_ends (named : files.Named) (search : Search) (isFolder : files.isFolder root = true) :
    (∀ depth, files.root.places.length < depth → ∃ outcome,
      Walker.enter files search depth root .start = some outcome ∧
        outcome.map Walker.found = walk files search [] root) ∧
    ((∃ text, walk files search [] root = .error (.symlinkCycle text)) ↔
      ∃ names, Circular files search root names) ∧
    ((¬ ∃ names, Circular files search root names) → ∃ paths, walk files search [] root = .ok paths) ∧
    (∀ depth folder walker walker', Walker.enter files search depth folder walker = some (.ok walker') →
      walker'.ancestors = walker.ancestors) ∧
    ∀ depth walker, files.root.places.length < depth →
      Walker.enter files search depth root .start = some (.ok walker) →
        (∀ path ∈ walker.entered, ∃ names, FolderChain files search root names ∧ root.descend names = path) ∧
        ∀ names, FolderChain files search root names → walker.entered.count (root.descend names) = 1 := by
  obtain ⟨place, entries, led, -⟩ := FileSystem.isFolder_eq_true_iff.mp isFolder
  have filled : root.text.isEmpty = false :=
    (FileSystem.locate_eq_ok_iff.mp (FileSystem.resolve_eq_ok_iff.mp led)).1
  have carries {depth : Nat} (deep : files.root.places.length < depth) :
      Walker.Carries .start root (FolderChain files search root) (walk files search [] root)
        (Walker.enter files search depth root .start) :=
    Walker.carries_enter named isFolder rfl (Nat.lt_of_le_of_lt (List.length_filter_le _ _) deep)
  refine ⟨?_, exists_symlinkCycle_iff isFolder, ?_, fun _ _ _ _ => Walker.ancestors_of_enter, ?_⟩
  · intro depth deep
    have carries := carries deep
    generalize walk files search [] root = answer at carries ⊢
    generalize Walker.enter files search depth root .start = outcome at carries ⊢
    cases carries with
    | stopped failure => exact ⟨_, rfl, rfl⟩
    | done each => exact ⟨_, rfl, rfl⟩
  · intro straight
    exact (exists_walk_iff isFolder).mpr fun names circular => straight ⟨names, circular⟩
  · intro depth walker deep entered
    have carries := carries deep
    generalize walk files search [] root = answer at carries
    generalize Walker.enter files search depth root .start = outcome at carries entered
    cases carries with
    | stopped failure => cases entered
    | done each =>
      obtain rfl := Except.ok.inj (Option.some.inj entered)
      refine ⟨?_, fun names chain => count_entered named filled each chain⟩
      obtain ⟨chains, -, members, rfl⟩ := each
      intro path inside
      obtain ⟨names, member, same⟩ := List.mem_map.mp inside
      exact ⟨names, (members names).mp member, same⟩

/-- The link that leads back is a cycle for a walk that follows it. Without it, the folder with two names
is entered once by each. -/
theorem walk_ends_linkedPages :
    (∃ text, walk linkedPages ⟨".html", fun _ _ => false⟩ [] ⟨"pages"⟩ = .error (.symlinkCycle text)) ∧
    ∃ walker, Walker.enter linkedPages onward 9 ⟨"pages"⟩ .start = some (.ok walker) ∧ walker.ancestors = ∅ ∧
      walker.entered.count ⟨"pages/kept"⟩ = 1 ∧ walker.entered.count ⟨"pages/linked"⟩ = 1 := by
  have isFolder := isFolder_linkedPages.1
  have circles := (walk_ends named_linkedPages ⟨".html", fun _ _ => false⟩ isFolder).2.1.mpr
    ⟨_, circular_linkedPages⟩
  obtain ⟨ends, -, -, restored, each⟩ := walk_ends named_linkedPages onward isFolder
  have deep : linkedPages.root.places.length < 9 := by decide +kernel
  obtain ⟨outcome, entered, same⟩ := ends 9 deep
  rw [walk_linkedPages] at same
  cases outcome with
  | error failure => cases same
  | ok walker =>
    have once := (each 9 walker deep entered).2
    exact ⟨circles, walker, entered, restored _ _ _ _ entered, once _ folderChain_linkedPages.1,
      once _ folderChain_linkedPages.2⟩

end Walk

end BlockTemplates
