import BlockTemplates.Proofs.Files.Flat
import BlockTemplates.Proofs.Files.Route

/-! Chains of entries: names that lead from a folder down, each of them an entry of the folder before
it. A walk that succeeds finds the files at the ends of chains, each chain once, and it succeeds unless
a chain leads back into a folder that it has passed. Main statements: `enumerates_of_walk`,
`circular_of_walk_error` and `not_circular_of_walk`. -/

namespace BlockTemplates

def FileSystem.Holds (files : FileSystem) (folder : Path) (name : String) : Prop :=
  ∃ names, files.list folder = .ok names ∧ name ∈ names

theorem FileSystem.list_eq {files : FileSystem} {folder : Path} {place : Place} {entries : List (String × Node)}
    (led : files.resolve folder = .ok place) (held : files.node? place = some (.folder entries)) :
    files.list folder = .ok (entries.map Prod.fst) := by
  have found := stat_eq_ok_iff.mpr ⟨place, led, held⟩
  simp only [list, found, bind, Except.bind]
  rfl

theorem FileSystem.list_eq_ok_iff {files : FileSystem} {folder : Path} {names : List String} :
    files.list folder = .ok names ↔ ∃ place entries, files.resolve folder = .ok place ∧
      files.node? place = some (.folder entries) ∧ entries.map Prod.fst = names := by
  constructor
  · intro listed
    unfold list at listed
    cases found : files.stat folder with
    | error error =>
      rw [found] at listed
      cases listed
    | ok node =>
      rw [found] at listed
      obtain ⟨place, led, held⟩ := stat_eq_ok_iff.mp found
      cases node with
      | folder entries => exact ⟨place, entries, led, held, Except.ok.inj listed⟩
      | file content => cases listed
      | link target => cases listed
  · rintro ⟨place, entries, led, held, rfl⟩
    exact list_eq led held

theorem FileSystem.holds_iff {files : FileSystem} {folder : Path} {place : Place} {entries : List (String × Node)}
    (led : files.resolve folder = .ok place) (held : files.node? place = some (.folder entries)) {name : String} :
    files.Holds folder name ↔ name ∈ entries.map Prod.fst := by
  simp only [Holds, list_eq led held, Except.ok.injEq, exists_eq_left']

/-- Folders hold their entries under proper names and never two under one name. -/
structure FileSystem.Named (files : FileSystem) : Prop where
  distinct : ∀ place entries, files.node? place = some (.folder entries) → (entries.map Prod.fst).Nodup
  proper : ∀ place entries, files.node? place = some (.folder entries) →
    ∀ name ∈ entries.map Prod.fst, ProperName name

theorem FileSystem.Named.of_places {files : FileSystem}
    (all : ∀ place ∈ files.root.places, ∀ node ∈ files.node? place,
      (node.entries.map Prod.fst).Nodup ∧ ∀ name ∈ node.entries.map Prod.fst, ProperName name) : files.Named := by
  constructor
  · exact fun place entries held => (all place (Node.mem_places held) _ held).1
  · exact fun place entries held => (all place (Node.mem_places held) _ held).2

theorem FileSystem.Named.of_holds {files : FileSystem} (named : files.Named) {folder : Path} {name : String}
    (held : files.Holds folder name) : ProperName name ∧ folder.text.isEmpty = false := by
  obtain ⟨names, listed, inside⟩ := held
  obtain ⟨place, entries, led, held, rfl⟩ := list_eq_ok_iff.mp listed
  exact ⟨named.proper place entries held name inside, (locate_eq_ok_iff.mp (resolve_eq_ok_iff.mp led)).1⟩

section Chains

variable (files : FileSystem) (search : Search)

/-- An entry of a folder that is not left out, and whether it is a folder. -/
structure Kept (folder : Path) (name : String) (isFolder : Bool) : Prop where
  held : files.Holds folder name
  kind : files.isFolder (folder.join ⟨name⟩) = isFolder
  considered : search.ignores (folder.join ⟨name⟩) isFolder = false

/-- The last name of a chain ends in a suffix. -/
def Suffixed (suffix : String) (names : List String) : Prop :=
  ∃ before, names.getLast? = some (before ++ suffix)

def chosen (folder : Path) (name : String) {α : Type} (skipped entered taken : α) : α :=
  let path := folder.join ⟨name⟩
  let isFolder := files.isFolder path
  if search.ignores path isFolder then skipped
  else if isFolder then entered
  else if (Text.stripEnd? search.suffix.toList name.toList).isSome then taken
  else skipped

/-- A folder is entered, a file with the suffix is taken, and everything else is skipped. -/
inductive Choice (folder : Path) (name : String) : Prop
  | entered (entry : Kept files search folder name true)
      (same : ∀ {α : Type} (skipped entered taken : α),
        chosen files search folder name skipped entered taken = entered)
  | taken (entry : Kept files search folder name false) (suffixed : Suffixed search.suffix [name])
      (same : ∀ {α : Type} (skipped entered taken : α),
        chosen files search folder name skipped entered taken = taken)
  | skipped (noFolder : ¬ Kept files search folder name true)
      (noFile : ¬ (Kept files search folder name false ∧ Suffixed search.suffix [name]))
      (same : ∀ {α : Type} (skipped entered taken : α),
        chosen files search folder name skipped entered taken = skipped)

/-- Names of folders, each in the one before, of which none is left out. -/
inductive FolderChain : Path → List String → Prop
  | here (folder : Path) : FolderChain folder []
  | down {folder : Path} {name : String} {names : List String} (entry : Kept files search folder name true)
      (rest : FolderChain (folder.join ⟨name⟩) names) : FolderChain folder (name :: names)

/-- Names of folders, each in the one before, and of what is in the last of them and is no folder. None of
these is left out. -/
inductive FileChain : Path → List String → Prop
  | last {folder : Path} {name : String} (entry : Kept files search folder name false) : FileChain folder [name]
  | down {folder : Path} {name : String} {names : List String} (entry : Kept files search folder name true)
      (rest : FileChain (folder.join ⟨name⟩) names) : FileChain folder (name :: names)

/-- A chain of folders that leads back into a folder that it has passed. -/
def Circular (folder : Path) (names : List String) : Prop :=
  FolderChain files search folder names ∧ ∃ above below, names = above ++ below ∧ below ≠ [] ∧
    files.resolve (folder.descend names) = files.resolve (folder.descend above)

end Chains

/-- The paths at the ends of the chains of a kind, each chain once. -/
def Enumerates (folder : Path) (chain : List String → Prop) (paths : List Path) : Prop :=
  ∃ chains : List (List String), chains.Nodup ∧ (∀ names, names ∈ chains ↔ chain names) ∧
    chains.map folder.descend = paths

namespace Enumerates

variable {folder : Path} {chain chain' : List String → Prop} {paths paths' : List Path}

theorem nil (none : ∀ names, ¬ chain names) : Enumerates folder chain [] :=
  ⟨[], List.nodup_nil, fun names => iff_of_false List.not_mem_nil (none names), rfl⟩

theorem singleton {names : List String} (only : ∀ other, chain other ↔ other = names) :
    Enumerates folder chain [folder.descend names] := by
  refine ⟨[names], List.nodup_singleton names, fun other => ?_, rfl⟩
  rw [List.mem_singleton, only]

theorem congr (same : ∀ names, chain names ↔ chain' names) (all : Enumerates folder chain paths) :
    Enumerates folder chain' paths := by
  obtain ⟨chains, single, members, ends⟩ := all
  exact ⟨chains, single, fun names => (members names).trans (same names), ends⟩

theorem under {name : String} (all : Enumerates (folder.join ⟨name⟩) chain paths) :
    Enumerates folder (fun names => ∃ rest, names = name :: rest ∧ chain rest) paths := by
  obtain ⟨chains, single, members, rfl⟩ := all
  refine ⟨chains.map (name :: ·), single.map (List.cons_injective), fun names => ?_, ?_⟩
  · simp only [List.mem_map, members]
    constructor
    · rintro ⟨rest, inside, rfl⟩
      exact ⟨rest, rfl, inside⟩
    · rintro ⟨rest, rfl, inside⟩
      exact ⟨rest, inside, rfl⟩
  · rw [List.map_map]
    rfl

theorem append (first : Enumerates folder chain paths) (second : Enumerates folder chain' paths')
    (apart : ∀ names, chain names → ¬ chain' names) :
    Enumerates folder (fun names => chain names ∨ chain' names) (paths ++ paths') := by
  obtain ⟨chains, single, members, rfl⟩ := first
  obtain ⟨chains', single', members', rfl⟩ := second
  refine ⟨chains ++ chains', ?_, fun names => ?_, List.map_append⟩
  · refine List.nodup_append.mpr ⟨single, single', fun names inside other inside' same => ?_⟩
    rw [← same] at inside'
    exact apart names ((members names).mp inside) ((members' names).mp inside')
  · rw [List.mem_append, members, members']

theorem flatten {names : List String} (single : names.Nodup) {groups : List (List Path)}
    (each : List.Forall₂ (fun name => Enumerates folder fun chained => chained.head? = some name ∧ chain chained)
      names groups) :
    Enumerates folder (fun chained => ∃ name ∈ names, chained.head? = some name ∧ chain chained)
      groups.flatten := by
  induction each with
  | nil => exact nil fun chained ⟨name, inside, _⟩ => List.not_mem_nil inside
  | @cons name group names groups first _ ih =>
    obtain ⟨new, single⟩ := List.nodup_cons.mp single
    have both := first.append (ih single) fun chained starts ⟨other, inside, starts', _⟩ => by
      obtain rfl := Option.some.inj (starts.1.symm.trans starts')
      exact new inside
    refine both.congr fun chained => ?_
    simp only [List.mem_cons, exists_eq_or_imp]

end Enumerates

section Walk

variable {files : FileSystem} {search : Search} {ancestors : List Place} {folder : Path} {name : String}
  {names above below : List String} {paths : List Path} {place : Place}

theorem FolderChain.of_append (chain : FolderChain files search folder (above ++ below)) :
    FolderChain files search folder above ∧ FolderChain files search (folder.descend above) below := by
  induction above generalizing folder with
  | nil => exact ⟨.here folder, chain⟩
  | cons name above ih =>
    cases chain with
    | down entry rest =>
      obtain ⟨before, after⟩ := ih rest
      exact ⟨.down entry before, after⟩

theorem components_descend (filled : folder.text.isEmpty = false)
    (proper : ∀ name ∈ names, FileSystem.ProperName name) :
    (folder.descend names).components = folder.components ++ names.map .name := by
  induction names generalizing folder with
  | nil => exact (List.append_nil _).symm
  | cons name names ih =>
    rw [List.forall_mem_cons] at proper
    have further := ih (Path.isEmpty_join filled (Path.isAbsolute_name proper.1.single)) proper.2
    rw [Path.descend, further, Path.components_join_name filled proper.1, List.append_assoc]
    rfl

theorem eq_of_components_descend (filled : folder.text.isEmpty = false)
    (proper : ∀ name ∈ names, FileSystem.ProperName name) {names' : List String}
    (proper' : ∀ name ∈ names', FileSystem.ProperName name)
    (same : (folder.descend names).components = (folder.descend names').components) : names = names' := by
  rw [components_descend filled proper, components_descend filled proper'] at same
  exact List.map_injective_iff.mpr (fun _ _ => Path.Component.name.inj) (List.append_cancel_left same)

theorem FolderChain.proper (named : files.Named) (chain : FolderChain files search folder names) :
    ∀ name ∈ names, FileSystem.ProperName name := by
  induction chain with
  | here => exact List.forall_mem_nil _
  | down entry _ ih => exact List.forall_mem_cons.mpr ⟨(named.of_holds entry.held).1, ih⟩

theorem FileChain.proper (named : files.Named) (chain : FileChain files search folder names) :
    ∀ name ∈ names, FileSystem.ProperName name := by
  induction chain with
  | last entry => exact List.forall_mem_singleton.mpr (named.of_holds entry.held).1
  | down entry _ ih => exact List.forall_mem_cons.mpr ⟨(named.of_holds entry.held).1, ih⟩

theorem folderChain_cons_iff : FolderChain files search folder (name :: names) ↔
    Kept files search folder name true ∧ FolderChain files search (folder.join ⟨name⟩) names := by
  constructor
  · intro chain
    cases chain with
    | down entry rest => exact ⟨entry, rest⟩
  · exact fun ⟨entry, rest⟩ => .down entry rest

theorem Circular.down (entry : Kept files search folder name true)
    (circular : Circular files search (folder.join ⟨name⟩) names) :
    Circular files search folder (name :: names) := by
  obtain ⟨chain, above, below, rfl, filled, back⟩ := circular
  exact ⟨.down entry chain, name :: above, below, rfl, filled, back⟩

theorem suffixed_singleton_iff {suffix : String} :
    Suffixed suffix [name] ↔ (Text.stripEnd? suffix.toList name.toList).isSome = true := by
  simp only [Suffixed, List.getLast?_singleton, Option.some.injEq, Option.isSome_iff_exists,
    Text.stripEnd?_eq_some_iff]
  constructor
  · rintro ⟨before, rfl⟩
    exact ⟨before.toList, String.toList_append⟩
  · rintro ⟨before, spelled⟩
    refine ⟨String.ofList before, ?_⟩
    rw [← String.toList_inj, String.toList_append, String.toList_ofList, spelled]

theorem choice (search : Search) (held : files.Holds folder name) : Choice files search folder name := by
  cases kind : files.isFolder (folder.join ⟨name⟩) with
  | true =>
    have other : ¬ Kept files search folder name false := fun entry => nomatch kind.symm.trans entry.kind
    cases ignored : search.ignores (folder.join ⟨name⟩) true with
    | true =>
      have out : ¬ Kept files search folder name true := fun entry => nomatch ignored.symm.trans entry.considered
      exact .skipped out (fun entry => other entry.1) (by simp [chosen, kind, ignored])
    | false => exact .entered ⟨held, kind, ignored⟩ (by simp [chosen, kind, ignored])
  | false =>
    have other : ¬ Kept files search folder name true := fun entry => nomatch kind.symm.trans entry.kind
    cases ignored : search.ignores (folder.join ⟨name⟩) false with
    | true =>
      have out : ¬ Kept files search folder name false := fun entry => nomatch ignored.symm.trans entry.considered
      exact .skipped other (fun entry => out entry.1) (by simp [chosen, kind, ignored])
    | false =>
      cases ending : (Text.stripEnd? search.suffix.toList name.toList).isSome with
      | true =>
        exact .taken ⟨held, kind, ignored⟩ (suffixed_singleton_iff.mpr ending) (by simp [chosen, kind, ignored, ending])
      | false =>
        have out : ¬ Suffixed search.suffix [name] := fun ends =>
          nomatch ending.symm.trans (suffixed_singleton_iff.mp ends)
        exact .skipped other (fun entry => out entry.2) (by simp [chosen, kind, ignored, ending])

theorem walkEntry_eq_chosen (ancestors : List Place) :
    walkEntry files search ancestors folder name =
      chosen files search folder name (.ok []) (walk files search ancestors (folder.join ⟨name⟩))
        (.ok [folder.join ⟨name⟩]) := rfl

theorem chosen_of_kept (entry : Kept files search folder name true) {α : Type} (skipped entered taken : α) :
    chosen files search folder name skipped entered taken = entered := by
  unfold chosen
  simp only [entry.kind, entry.considered, Bool.false_eq_true, if_false, if_true]

theorem fileChain_cons_iff :
    FileChain files search folder (name :: names) ∧ Suffixed search.suffix (name :: names) ↔
    (names = [] ∧ Kept files search folder name false ∧ Suffixed search.suffix [name]) ∨
      Kept files search folder name true ∧
        FileChain files search (folder.join ⟨name⟩) names ∧ Suffixed search.suffix names := by
  have later (chain : FileChain files search (folder.join ⟨name⟩) names) :
      Suffixed search.suffix (name :: names) ↔ Suffixed search.suffix names := by
    have filled : names ≠ [] := by cases chain <;> exact List.cons_ne_nil _ _
    unfold Suffixed
    rw [List.getLast?_cons_of_ne_nil filled]
  constructor
  · rintro ⟨chain, suffixed⟩
    cases chain with
    | last entry => exact .inl ⟨rfl, entry, suffixed⟩
    | down entry rest => exact .inr ⟨entry, rest, (later rest).mp suffixed⟩
  · rintro (⟨rfl, entry, suffixed⟩ | ⟨entry, rest, suffixed⟩)
    · exact ⟨.last entry, suffixed⟩
    · exact ⟨.down entry rest, (later rest).mpr suffixed⟩

theorem enumerates_of_walkEntry (held : files.Holds folder name)
    (below : ∀ paths, walk files search ancestors (folder.join ⟨name⟩) = .ok paths →
      Enumerates (folder.join ⟨name⟩)
        (fun names => FileChain files search (folder.join ⟨name⟩) names ∧ Suffixed search.suffix names) paths)
    (walked : walkEntry files search ancestors folder name = .ok paths) :
    Enumerates folder (fun names => names.head? = some name ∧
      FileChain files search folder names ∧ Suffixed search.suffix names) paths := by
  have heads (names : List String) : names.head? = some name ↔ ∃ rest, names = name :: rest :=
    List.head?_eq_some_iff
  rw [walkEntry_eq_chosen] at walked
  cases choice search held with
  | entered entry same =>
    rw [same] at walked
    refine (below paths walked).under.congr fun names => ?_
    rw [heads, ← exists_and_right]
    refine exists_congr fun rest => and_congr_right fun whole => ?_
    have other : ¬ Kept files search folder name false := fun file => nomatch entry.kind.symm.trans file.kind
    rw [whole, fileChain_cons_iff]
    simp only [other, false_and, and_false, false_or, entry, true_and]
  | taken entry suffixed same =>
    rw [same] at walked
    obtain rfl := Except.ok.inj walked
    refine (Enumerates.singleton fun names => ?_ : Enumerates folder _ [folder.descend [name]])
    constructor
    · rintro ⟨starts, chain⟩
      obtain ⟨rest, rfl⟩ := (heads names).mp starts
      rcases fileChain_cons_iff.mp chain with ⟨rfl, -⟩ | ⟨folder, -⟩
      · rfl
      · exact nomatch entry.kind.symm.trans folder.kind
    · rintro rfl
      exact ⟨rfl, .last entry, suffixed⟩
  | skipped noFolder noFile same =>
    rw [same] at walked
    obtain rfl := Except.ok.inj walked
    refine Enumerates.nil fun names ⟨starts, chain⟩ => ?_
    obtain ⟨rest, rfl⟩ := (heads names).mp starts
    rcases fileChain_cons_iff.mp chain with ⟨-, file⟩ | ⟨folder, -⟩
    · exact noFile file
    · exact noFolder folder

theorem FileChain.exists_head (chain : FileChain files search folder names) :
    ∃ name, files.Holds folder name ∧ names.head? = some name := by
  cases chain with
  | last entry => exact ⟨_, entry.held, rfl⟩
  | down entry => exact ⟨_, entry.held, rfl⟩

/-- A walk finds the files at the ends of the chains whose last name has the suffix. -/
theorem enumerates_of_walk (named : files.Named)
    (walked : walk files search ancestors folder = .ok paths) :
    Enumerates folder (fun names => FileChain files search folder names ∧ Suffixed search.suffix names) paths := by
  induction size : (unvisited files ancestors).length using Nat.strong_induction_on
    generalizing ancestors folder paths with
  | _ size ih =>
    obtain ⟨place, entries, groups, led, new, held, found, rfl⟩ := walk_eq_ok walked
    have smaller := unvisited_lt held new
    rw [size] at smaller
    have groups := Result.forall₂_of_mapM found fun name inside paths walked =>
      enumerates_of_walkEntry ((FileSystem.holds_iff led held).mpr inside)
        (fun paths walked => ih _ smaller walked rfl) walked
    refine (Enumerates.flatten (named.distinct place entries held) groups).congr fun names => ?_
    simp only [← FileSystem.holds_iff led held]
    constructor
    · exact fun ⟨_, _, _, chain⟩ => chain
    · intro chain
      obtain ⟨name, inside, starts⟩ := chain.1.exists_head
      exact ⟨name, inside, starts, chain⟩

theorem exists_walk_of_folderChain (walked : walk files search ancestors folder = .ok paths)
    (chain : FolderChain files search folder names) :
    ∃ further paths', (∀ place ∈ ancestors, place ∈ further) ∧
      walk files search further (folder.descend names) = .ok paths' := by
  induction chain generalizing ancestors paths with
  | here folder => exact ⟨ancestors, paths, fun _ inside => inside, walked⟩
  | @down folder name names entry _ ih =>
    obtain ⟨place, entries, groups, led, -, held, found, -⟩ := walk_eq_ok walked
    have inside := (FileSystem.holds_iff led held).mp entry.held
    obtain ⟨group, entered⟩ := Result.exists_of_mapM found _ inside
    rw [walkEntry_eq_chosen, chosen_of_kept entry] at entered
    obtain ⟨further, paths', more, walked'⟩ := ih entered
    exact ⟨further, paths', fun other inside => more other (List.mem_cons_of_mem _ inside), walked'⟩

theorem place_of_walk (walked : walk files search ancestors folder = .ok paths) :
    ∃ place, files.resolve folder = .ok place ∧ place ∉ ancestors := by
  obtain ⟨place, entries, groups, led, new, -⟩ := walk_eq_ok walked
  refine ⟨place, led, fun inside => ?_⟩
  rw [List.contains_iff_mem.mpr inside] at new
  cases new

theorem not_circular_of_walk (walked : walk files search ancestors folder = .ok paths) :
    ¬ Circular files search folder names := by
  rintro ⟨chain, above, below, rfl, filled, back⟩
  obtain ⟨before, after⟩ := chain.of_append
  obtain ⟨further, paths', -, walked'⟩ := exists_walk_of_folderChain walked before
  -- the walk of the folder that is led back to holds its place among the ancestors of all below it
  cases after with
  | here => exact filled rfl
  | @down _ name names entry rest =>
    obtain ⟨place, entries, groups, led, -, held, found, -⟩ := walk_eq_ok walked'
    obtain ⟨group, entered⟩ := Result.exists_of_mapM found _ ((FileSystem.holds_iff led held).mp entry.held)
    rw [walkEntry_eq_chosen, chosen_of_kept entry] at entered
    obtain ⟨deeper, paths'', more, walked''⟩ := exists_walk_of_folderChain entered rest
    obtain ⟨last, reached, new⟩ := place_of_walk walked''
    rw [Path.descend_append, led] at back
    rw [Path.descend] at back
    rw [back] at reached
    obtain rfl := Except.ok.inj reached
    exact new (more place List.mem_cons_self)

/-- A walk that fails has come to a folder that it is in already, and names it. -/
theorem circular_of_walk_error (isFolder : files.isFolder folder = true) {failure : Failure}
    (failed : walk files search ancestors folder = .error failure) :
    ∃ names, failure = .symlinkCycle (folder.descend names).text ∧
      ((FolderChain files search folder names ∧
          ∃ place ∈ ancestors, files.resolve (folder.descend names) = .ok place) ∨
        Circular files search folder names) := by
  induction size : (unvisited files ancestors).length using Nat.strong_induction_on
    generalizing ancestors folder with
  | _ size ih =>
    obtain ⟨place, entries, led, held⟩ := FileSystem.isFolder_eq_true_iff.mp isFolder
    cases new : ancestors.contains place with
    | true =>
      rw [walk_of_contains led new] at failed
      exact ⟨[], (Except.error.inj failed).symm, .inl ⟨.here folder, place, List.contains_iff_mem.mp new, led⟩⟩
    | false =>
      have smaller := unvisited_lt held new
      rw [size] at smaller
      rw [walk_eq_walkEntry led new held, Result.bind_eq_error_iff,
        or_iff_left (fun ⟨_, _, last⟩ => nomatch last)] at failed
      obtain ⟨before, name, after, whole, -, failed⟩ := Result.mapM_eq_error_iff.mp failed
      have inside : name ∈ entries.map Prod.fst := by
        rw [whole]
        exact List.mem_append_right _ List.mem_cons_self
      rw [walkEntry_eq_chosen] at failed
      cases choice search ((FileSystem.holds_iff led held).mpr inside) with
      | entered entry same =>
        rw [same] at failed
        obtain ⟨names, message, found⟩ := ih _ smaller entry.kind failed rfl
        refine ⟨name :: names, message, ?_⟩
        rcases found with ⟨chain, other, member, reached⟩ | circular
        · rcases List.mem_cons.mp member with rfl | member
          · exact .inr ⟨.down entry chain, [], name :: names, rfl, List.cons_ne_nil _ _, reached.trans led.symm⟩
          · exact .inl ⟨.down entry chain, other, member, reached⟩
        · exact .inr (circular.down entry)
      | taken entry suffixed same =>
        rw [same] at failed
        cases failed
      | skipped noFolder noFile same =>
        rw [same] at failed
        cases failed

theorem exists_symlinkCycle_iff (isFolder : files.isFolder folder = true) :
    (∃ text, walk files search [] folder = .error (.symlinkCycle text)) ↔
      ∃ names, Circular files search folder names := by
  constructor
  · rintro ⟨text, failed⟩
    obtain ⟨names, -, ⟨-, place, inside, -⟩ | circular⟩ := circular_of_walk_error isFolder failed
    · exact absurd inside List.not_mem_nil
    · exact ⟨names, circular⟩
  · rintro ⟨names, circular⟩
    cases walked : walk files search [] folder with
    | ok paths => exact absurd circular (not_circular_of_walk walked)
    | error failure =>
      obtain ⟨names, rfl, -⟩ := circular_of_walk_error isFolder walked
      exact ⟨_, rfl⟩

theorem exists_walk_iff (isFolder : files.isFolder folder = true) :
    (∃ paths, walk files search [] folder = .ok paths) ↔ ∀ names, ¬ Circular files search folder names := by
  constructor
  · exact fun ⟨paths, walked⟩ names => not_circular_of_walk walked
  · intro straight
    cases walked : walk files search [] folder with
    | ok paths => exact ⟨paths, rfl⟩
    | error failure =>
      obtain ⟨text, rfl, -⟩ := circular_of_walk_error isFolder walked
      obtain ⟨names, circular⟩ := (exists_symlinkCycle_iff isFolder).mp ⟨_, walked⟩
      exact absurd circular (straight names)

end Walk

section LinkedPages

/-- A folder with a page in another folder, a link to that folder, and a link to the folder itself. -/
def linkedPages : FileSystem where
  root := .folder [("pages", .folder [("again", .link ⟨"."⟩), ("kept", .folder [("page.html", .file (some "hi"))]),
    ("linked", .link ⟨"kept"⟩)])]
  working := []

theorem named_linkedPages : linkedPages.Named := by
  apply FileSystem.Named.of_places
  decide

theorem resolve_linkedPages :
    linkedPages.resolve ⟨"pages"⟩ = .ok ["pages"] ∧ linkedPages.resolve ⟨"pages/again"⟩ = .ok ["pages"] ∧
      linkedPages.resolve ⟨"pages/kept"⟩ = .ok ["pages", "kept"] ∧
      linkedPages.resolve ⟨"pages/linked"⟩ = .ok ["pages", "kept"] := by
  simp only [FileSystem.resolve_eq_arrive]
  decide

theorem isFolder_linkedPages :
    linkedPages.isFolder ⟨"pages"⟩ = true ∧ linkedPages.isFolder ⟨"pages/again"⟩ = true ∧
      linkedPages.isFolder ⟨"pages/kept"⟩ = true ∧ linkedPages.isFolder ⟨"pages/linked"⟩ = true ∧
      linkedPages.isFolder ⟨"pages/kept/page.html"⟩ = false ∧
      linkedPages.isFolder ⟨"pages/linked/page.html"⟩ = false := by
  simp only [FileSystem.isFolder_eq_arrive]
  decide

def withoutAgain : Exclusion :=
  ⟨"pages", [⟨.foldersFirst :: "again".toList.map .literal, false, false⟩]⟩

def onward : Search := ⟨".html", withoutAgain.ignores⟩

theorem walk_linkedPages :
    walk linkedPages onward [] ⟨"pages"⟩ = .ok [⟨"pages/kept/page.html"⟩, ⟨"pages/linked/page.html"⟩] := by
  obtain ⟨pages, -, kept, linked⟩ := resolve_linkedPages
  obtain ⟨-, isAgain, isKept, isLinked, noPage, noPage'⟩ := isFolder_linkedPages
  have joined : Path.join ⟨"pages"⟩ ⟨"again"⟩ = ⟨"pages/again"⟩ ∧ Path.join ⟨"pages"⟩ ⟨"kept"⟩ = ⟨"pages/kept"⟩ ∧
      Path.join ⟨"pages"⟩ ⟨"linked"⟩ = ⟨"pages/linked"⟩ ∧
      Path.join ⟨"pages/kept"⟩ ⟨"page.html"⟩ = ⟨"pages/kept/page.html"⟩ ∧
      Path.join ⟨"pages/linked"⟩ ⟨"page.html"⟩ = ⟨"pages/linked/page.html"⟩ := by
    decide
  have ignored : onward.ignores ⟨"pages/again"⟩ true = true ∧ onward.ignores ⟨"pages/kept"⟩ true = false ∧
      onward.ignores ⟨"pages/linked"⟩ true = false := by
    decide +kernel
  -- the folder has two names, and either is flat
  have inside {folder : Path} (led : linkedPages.resolve folder = .ok ["pages", "kept"])
      (file : linkedPages.isFolder (folder.join ⟨"page.html"⟩) = false)
      (taken : onward.takes folder "page.html" = true) :
      walk linkedPages onward [["pages"]] folder = .ok [folder.join ⟨"page.html"⟩] := by
    have flat : Flat linkedPages folder ["pages", "kept"] [("page.html", .file (some "hi"))] :=
      ⟨led, rfl, List.forall_mem_singleton.mpr file⟩
    rw [walk_flat flat rfl, List.map_singleton, List.filter_singleton, taken]
    rfl
  have first := inside kept (by rwa [joined.2.2.2.1]) (by decide +kernel)
  have second := inside linked (by rwa [joined.2.2.2.2]) (by decide +kernel)
  rw [walk_eq pages rfl rfl]
  simp only [List.mapM_cons, List.mapM_nil, joined, isAgain, isKept, isLinked, ignored, first, second]
  rfl

theorem folderChain_linkedPages :
    FolderChain linkedPages onward ⟨"pages"⟩ ["kept"] ∧ FolderChain linkedPages onward ⟨"pages"⟩ ["linked"] := by
  obtain ⟨pages, -⟩ := resolve_linkedPages
  obtain ⟨-, -, kept, linked, -⟩ := isFolder_linkedPages
  have held (name : String) : linkedPages.Holds ⟨"pages"⟩ name ↔ name ∈ ["again", "kept", "linked"] :=
    FileSystem.holds_iff pages rfl
  constructor
  · exact .down ⟨(held _).mpr (by decide), kept, by decide +kernel⟩ (.here _)
  · exact .down ⟨(held _).mpr (by decide), linked, by decide +kernel⟩ (.here _)

theorem circular_linkedPages : Circular linkedPages ⟨".html", fun _ _ => false⟩ ⟨"pages"⟩ ["again"] := by
  obtain ⟨pages, again, -⟩ := resolve_linkedPages
  obtain ⟨-, isAgain, -⟩ := isFolder_linkedPages
  have held : linkedPages.Holds ⟨"pages"⟩ "again" := (FileSystem.holds_iff pages rfl).mpr (by decide)
  refine ⟨.down ⟨held, isAgain, rfl⟩ (.here _), [], ["again"], rfl, List.cons_ne_nil _ _, ?_⟩
  exact again.trans pages.symm

end LinkedPages

end BlockTemplates
