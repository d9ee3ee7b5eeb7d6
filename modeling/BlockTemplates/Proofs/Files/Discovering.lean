import BlockTemplates.Proofs.Files.Chain

/-! Discovered template files. There is one for each chain of entries to a file with the suffix, unless
nothing is left of the name without the suffix, and they are the same in whatever order the folders list
their entries. Main statements: `Relisted.exists_walk`, `increasing_templatesOf`, `gather_relisted` and
`discover_exact`. -/

namespace BlockTemplates

/-- The same node, but for the order in which a folder lists its entries. -/
inductive SameNode : Option Node → Option Node → Prop
  | missing : SameNode none none
  | file (content : Option String) : SameNode (some (.file content)) (some (.file content))
  | link (target : Path) : SameNode (some (.link target)) (some (.link target))
  | folder {entries entries' : List (String × Node)} (same : (entries.map Prod.fst).Perm (entries'.map Prod.fst)) :
      SameNode (some (.folder entries)) (some (.folder entries'))

theorem SameNode.symm {node other : Option Node} (same : SameNode node other) : SameNode other node := by
  cases same with
  | missing => exact .missing
  | file content => exact .file content
  | link target => exact .link target
  | folder same => exact .folder same.symm

theorem SameNode.eq_none {node : Option Node} (same : SameNode none node) : node = none := by
  cases same
  rfl

theorem SameNode.eq_link {node : Option Node} {target : Path} (same : SameNode (some (.link target)) node) :
    node = some (.link target) := by
  cases same
  rfl

theorem SameNode.exists_solid {node : Node} {node' : Option Node} (same : SameNode (some node) node')
    (unlinked : ∀ target, node ≠ .link target) : ∃ other, node' = some other ∧ ∀ target, other ≠ .link target := by
  cases same with
  | file content => exact ⟨_, rfl, Node.file_ne_link content⟩
  | link target => exact absurd rfl (unlinked target)
  | @folder _ entries' => exact ⟨_, rfl, Node.folder_ne_link entries'⟩

instance : (node other : Option Node) → Decidable (SameNode node other)
  | none, none => isTrue .missing
  | some (.file content), some (.file content') =>
    decidable_of_iff (content = content') ⟨fun same => same ▸ .file content, fun same => by cases same; rfl⟩
  | some (.link target), some (.link target') =>
    decidable_of_iff (target = target') ⟨fun same => same ▸ .link target, fun same => by cases same; rfl⟩
  | some (.folder entries), some (.folder entries') =>
    decidable_of_iff ((entries.map Prod.fst).Perm (entries'.map Prod.fst))
      ⟨.folder, fun same => by cases same; assumption⟩
  | none, some _ => isFalse nofun
  | some _, none => isFalse nofun
  | some (.file _), some (.link _) => isFalse nofun
  | some (.file _), some (.folder _) => isFalse nofun
  | some (.link _), some (.file _) => isFalse nofun
  | some (.link _), some (.folder _) => isFalse nofun
  | some (.folder _), some (.file _) => isFalse nofun
  | some (.folder _), some (.link _) => isFalse nofun

/-- The same nodes at the same places, with folders that may list their entries in another order. -/
structure Relisted (files other : FileSystem) : Prop where
  working : files.working = other.working
  each : ∀ place, SameNode (files.node? place) (other.node? place)

namespace Relisted

variable {files other : FileSystem}

/-- No more places than there are nodes have to be compared. -/
theorem of_places (working : files.working = other.working)
    (each : ∀ place ∈ files.root.places ++ other.root.places, SameNode (files.node? place) (other.node? place)) :
    Relisted files other := by
  refine ⟨working, fun place => ?_⟩
  cases held : files.node? place with
  | some node =>
    rw [← held]
    exact each place (List.mem_append_left _ (Node.mem_places held))
  | none =>
    cases held' : other.node? place with
    | some node =>
      rw [← held, ← held']
      exact each place (List.mem_append_right _ (Node.mem_places held'))
    | none => exact .missing

theorem symm (relisted : Relisted files other) : Relisted other files :=
  ⟨relisted.working.symm, fun place => (relisted.each place).symm⟩

theorem folder (relisted : Relisted files other) {place : Place} {entries : List (String × Node)}
    (held : files.node? place = some (.folder entries)) : ∃ entries',
      other.node? place = some (.folder entries') ∧ (entries.map Prod.fst).Perm (entries'.map Prod.fst) ∧
        ∀ name, SameNode (entries.lookup name) (entries'.lookup name) := by
  have same := relisted.each place
  rw [held] at same
  generalize held' : other.node? place = node at same
  cases same with
  | @folder _ entries' same =>
    refine ⟨entries', rfl, same, fun name => ?_⟩
    have below := relisted.each (place ++ [name])
    rwa [FileSystem.node?_append_singleton held, FileSystem.node?_append_singleton held'] at below

theorem locateFrom_relisted (relisted : Relisted files other) (follows : Bool) (links : Nat) (place : Place)
    (pieces : List String) :
    other.locateFrom follows links place pieces = files.locateFrom follows links place pieces := by
  -- by the lookup's own cases: no more pieces, a blank piece, `..`, a name that is too long, one that is not
  -- there (last or not), a link (not followed, followed too often, followed), another entry, no folder
  fun_induction FileSystem.locateFrom files follows links place pieces with
  | case1 => rw [FileSystem.locateFrom]
  | case2 _ _ _ _ _ held blank ih =>
    obtain ⟨_, held', -⟩ := relisted.folder held
    rwa [FileSystem.locateFrom_blank held' blank]
  | case3 _ _ _ _ held _ ih =>
    obtain ⟨_, held', -⟩ := relisted.folder held
    rwa [FileSystem.locateFrom_up held']
  | case4 _ _ _ _ _ held solid up long =>
    obtain ⟨_, held', -⟩ := relisted.folder held
    rw [FileSystem.locateFrom, held']
    simp only [if_neg solid, if_neg up, if_pos long]
  | case5 _ _ piece _ _ held solid up short found ended =>
    obtain ⟨_, held', -, below⟩ := relisted.folder held
    have same := below piece
    rw [found] at same
    rw [FileSystem.locateFrom, held']
    simp only [if_neg solid, if_neg up, if_neg short, same.eq_none, if_pos ended]
  | case6 _ _ piece _ _ held solid up short found more =>
    obtain ⟨_, held', -, below⟩ := relisted.folder held
    have same := below piece
    rw [found] at same
    rw [FileSystem.locateFrom, held']
    simp only [if_neg solid, if_neg up, if_neg short, same.eq_none, if_neg more]
  | case7 _ _ piece _ _ held solid up short _ found ended =>
    obtain ⟨_, held', -, below⟩ := relisted.folder held
    have same := below piece
    rw [found] at same
    rw [FileSystem.locateFrom, held']
    simp only [if_neg solid, if_neg up, if_neg short, same.eq_link, if_pos ended]
  | case8 _ piece _ _ held solid up short _ found more =>
    obtain ⟨_, held', -, below⟩ := relisted.folder held
    have same := below piece
    rw [found] at same
    rw [FileSystem.locateFrom, held']
    simp only [if_neg solid, if_neg up, if_neg short, same.eq_link, if_neg more]
  | case9 _ piece _ _ held solid up short _ found more _ ih =>
    obtain ⟨_, held', -, below⟩ := relisted.folder held
    have same := below piece
    rw [found] at same
    rwa [FileSystem.locateFrom_through held' solid up short same.eq_link more]
  | case10 _ _ piece _ _ held solid up short node unlinked found ih =>
    obtain ⟨_, held', -, below⟩ := relisted.folder held
    have same := below piece
    rw [found] at same
    obtain ⟨node', found', unlinked'⟩ := same.exists_solid fun target link => unlinked target link
    rwa [FileSystem.locateFrom_solid held' solid up short found' unlinked']
  | case11 _ place _ _ noFolder =>
    have same := relisted.each place
    rw [FileSystem.locateFrom]
    split
    · next entries held =>
      rw [held] at same
      obtain ⟨entries', held', -⟩ := relisted.symm.folder held
      exact absurd held' (noFolder entries')
    · rfl

theorem resolve_eq (relisted : Relisted files other) (path : Path) : other.resolve path = files.resolve path := by
  unfold FileSystem.resolve FileSystem.locate
  rw [relisted.working, relisted.locateFrom_relisted]

theorem isFolder_of (relisted : Relisted files other) {path : Path} (isFolder : files.isFolder path = true) :
    other.isFolder path = true := by
  obtain ⟨place, entries, led, held⟩ := FileSystem.isFolder_eq_true_iff.mp isFolder
  obtain ⟨entries', held', -⟩ := relisted.folder held
  exact FileSystem.isFolder_eq_true_iff.mpr ⟨place, entries', (relisted.resolve_eq path).trans led, held'⟩

theorem isFolder_eq (relisted : Relisted files other) (path : Path) : other.isFolder path = files.isFolder path :=
  Bool.eq_iff_iff.mpr ⟨relisted.symm.isFolder_of, relisted.isFolder_of⟩

theorem holds_of (relisted : Relisted files other) {folder : Path} {name : String}
    (held : files.Holds folder name) : other.Holds folder name := by
  obtain ⟨names, listed, inside⟩ := held
  obtain ⟨place, entries, led, held, rfl⟩ := FileSystem.list_eq_ok_iff.mp listed
  obtain ⟨entries', held', same, -⟩ := relisted.folder held
  exact (FileSystem.holds_iff ((relisted.resolve_eq folder).trans led) held').mpr (same.mem_iff.mp inside)

theorem named (relisted : Relisted files other) (named : files.Named) : other.Named where
  distinct := by
    intro place entries' held'
    obtain ⟨entries, held, same, -⟩ := relisted.symm.folder held'
    exact same.nodup_iff.mpr (named.distinct place entries held)
  proper := by
    intro place entries' held' name inside
    obtain ⟨entries, held, same, -⟩ := relisted.symm.folder held'
    exact named.proper place entries held name (same.mem_iff.mp inside)

variable {search : Search} {folder : Path} {names : List String}

theorem kept (relisted : Relisted files other) {name : String} {isFolder : Bool}
    (entry : Kept files search folder name isFolder) : Kept other search folder name isFolder :=
  ⟨relisted.holds_of entry.held, (relisted.isFolder_eq _).trans entry.kind, entry.considered⟩

theorem folderChain (relisted : Relisted files other) (chain : FolderChain files search folder names) :
    FolderChain other search folder names := by
  induction chain with
  | here folder => exact .here folder
  | down entry _ ih => exact .down (relisted.kept entry) ih

theorem fileChain (relisted : Relisted files other) (chain : FileChain files search folder names) :
    FileChain other search folder names := by
  induction chain with
  | last entry => exact .last (relisted.kept entry)
  | down entry _ ih => exact .down (relisted.kept entry) ih

theorem circular (relisted : Relisted files other) (circular : Circular files search folder names) :
    Circular other search folder names := by
  obtain ⟨chain, above, below, whole, filled, back⟩ := circular
  refine ⟨relisted.folderChain chain, above, below, whole, filled, ?_⟩
  rw [relisted.resolve_eq, relisted.resolve_eq, back]

theorem exists_walk (relisted : Relisted files other) {paths : List Path}
    (walked : walk files search [] folder = .ok paths) : ∃ paths', walk other search [] folder = .ok paths' := by
  obtain ⟨place, entries, groups, led, -, held, -⟩ := walk_eq_ok walked
  have isFolder := FileSystem.isFolder_eq_true_iff.mpr ⟨place, entries, led, held⟩
  refine (exists_walk_iff (relisted.isFolder_of isFolder)).mpr fun names circular => ?_
  exact (exists_walk_iff isFolder).mp ⟨paths, walked⟩ names (relisted.symm.circular circular)

end Relisted

section Gathering

variable {files : FileSystem} {search : Search} {folder : Path} {names names' : List String}
  {file file' : TemplateFile} {paths : List Path}

/-- The template file at the end of a chain. Its name is what the chain spells without the suffix. -/
structure TemplateAt (files : FileSystem) (search : Search) (folder : Path) (names : List String)
    (file : TemplateFile) : Prop where
  chain : FileChain files search folder names
  suffixed : Suffixed search.suffix names
  path : file.path = folder.descend names
  spelled : "/".intercalate names = file.name ++ search.suffix
  filled : file.name ≠ ""
  closed : file.name.toList.getLast? ≠ some '/'

/-- In the order of their names there is one template file for each chain with one at its end, and
nothing else. -/
structure Discovered (files : FileSystem) (search : Search) (folder : Path) (found : List TemplateFile) :
    Prop where
  increasing : found.Pairwise fun a b => a.name < b.name
  each : ∃ chains : List (List String), chains.Nodup ∧
    (∀ names, names ∈ chains ↔ ∃ file, TemplateAt files search folder names file) ∧
    List.Forall₂ (TemplateAt files search folder) chains found

theorem Relisted.templateAt {other : FileSystem} (relisted : Relisted files other)
    (template : TemplateAt files search folder names file) : TemplateAt other search folder names file :=
  { template with chain := relisted.fileChain template.chain }

theorem TemplateAt.eq (first : TemplateAt files search folder names file)
    (second : TemplateAt files search folder names file') : file = file' := by
  obtain ⟨name, path⟩ := file
  obtain ⟨name', path'⟩ := file'
  obtain rfl : path = path' := first.path.trans second.path.symm
  obtain rfl : name = name' := String.append_left_inj _ |>.mp (first.spelled.symm.trans second.spelled)
  rfl

theorem templateAt_iff (named : files.Named) (filled : folder.text.isEmpty = false)
    (chain : FileChain files search folder names) (suffixed : Suffixed search.suffix names) :
    templateFile? folder search.suffix (folder.descend names) = some file ↔
      TemplateAt files search folder names file := by
  have components := components_descend filled (chain.proper named)
  have spelled : Path.joinText (names.map .name) = "/".intercalate names := by
    unfold Path.joinText
    rw [List.map_map]
    exact congrArg _ (List.map_id names)
  unfold templateFile?
  rw [Option.map_eq_some_iff]
  constructor
  · rintro ⟨name, isName, rfl⟩
    obtain ⟨inner, whole, joined, left, closed⟩ := templateName?_eq_some_iff.mp isName
    obtain rfl := List.append_cancel_left (whole.symm.trans components)
    exact ⟨chain, suffixed, rfl, spelled.symm.trans joined, left, closed⟩
  · intro template
    refine ⟨file.name, templateName?_eq_some_iff.mpr ⟨names.map .name, components, ?_⟩, ?_⟩
    · exact ⟨spelled.trans template.spelled, template.filled, template.closed⟩
    · rw [← template.path]

theorem TemplateAt.names_eq (named : files.Named) (filled : folder.text.isEmpty = false)
    (first : TemplateAt files search folder names file) (second : TemplateAt files search folder names' file')
    (same : file.name = file'.name) : names = names' := by
  have isName := (templateAt_iff named filled first.chain first.suffixed).mpr first
  have isName' := (templateAt_iff named filled second.chain second.suffixed).mpr second
  obtain ⟨name, spelled, rfl⟩ := Option.map_eq_some_iff.mp isName
  obtain ⟨name', spelled', rfl⟩ := Option.map_eq_some_iff.mp isName'
  obtain rfl : name = name' := same
  exact eq_of_components_descend filled (first.chain.proper named) (second.chain.proper named)
    (components_eq_of_templateName? spelled spelled')

theorem TemplateAt.biUnique (search : Search) (named : files.Named) (filled : folder.text.isEmpty = false) :
    Relator.BiUnique (TemplateAt files search folder) :=
  ⟨fun _ _ _ first second => first.names_eq named filled second rfl, fun _ _ _ first second => first.eq second⟩

theorem Discovered.of_members {found : List TemplateFile} (named : files.Named)
    (filled : folder.text.isEmpty = false) (increasing : found.Pairwise fun a b => a.name < b.name)
    (members : ∀ file, file ∈ found ↔ ∃ names, TemplateAt files search folder names file) :
    Discovered files search folder found := by
  have unique := TemplateAt.biUnique search named filled
  have single : found.Nodup := increasing.imp fun {a b} less same => by
    rw [same] at less
    exact String.lt_irrefl b.name less
  choose! chainOf leads using fun file inside => (members file).mp inside
  have each : List.Forall₂ (TemplateAt files search folder) (found.map chainOf) found :=
    List.forall₂_map_left_iff.mpr (List.forall₂_same.mpr leads)
  refine ⟨increasing, found.map chainOf, (List.rel_nodup unique each).mpr single, fun names => ?_, each⟩
  constructor
  · intro inside
    obtain ⟨file, member, rfl⟩ := List.mem_map.mp inside
    exact ⟨file, leads file member⟩
  · rintro ⟨file, template⟩
    exact (List.rel_mem unique template each).mpr ((members file).mpr ⟨names, template⟩)

def templatesOf (folder : Path) (suffix : String) (paths : List Path) : List TemplateFile :=
  (paths.filterMap (templateFile? folder suffix)).mergeSort fun a b => decide (a.name ≤ b.name)

theorem gather_eq (walked : walk files search [] folder = .ok paths) :
    gather files search folder = .ok (templatesOf folder search.suffix paths) := by
  unfold gather
  rw [walked]
  rfl

theorem isEmpty_of_walk {ancestors : List Place} (walked : walk files search ancestors folder = .ok paths) :
    folder.text.isEmpty = false := by
  obtain ⟨place, entries, groups, led, -⟩ := walk_eq_ok walked
  exact (FileSystem.locate_eq_ok_iff.mp (FileSystem.resolve_eq_ok_iff.mp led)).1

theorem mem_templatesOf (named : files.Named) (walked : walk files search [] folder = .ok paths) :
    file ∈ templatesOf folder search.suffix paths ↔ ∃ names, TemplateAt files search folder names file := by
  have filled := isEmpty_of_walk walked
  obtain ⟨chains, -, members, rfl⟩ := enumerates_of_walk named walked
  rw [templatesOf, List.mem_mergeSort, List.mem_filterMap]
  constructor
  · rintro ⟨path, inside, isFile⟩
    obtain ⟨names, member, rfl⟩ := List.mem_map.mp inside
    obtain ⟨chain, suffixed⟩ := (members names).mp member
    exact ⟨names, (templateAt_iff named filled chain suffixed).mp isFile⟩
  · rintro ⟨names, isFile⟩
    have member := (members names).mpr ⟨isFile.chain, isFile.suffixed⟩
    refine ⟨folder.descend names, List.mem_map_of_mem member, ?_⟩
    exact (templateAt_iff named filled isFile.chain isFile.suffixed).mpr isFile

/-- Sorting makes the names increase, and no two chains lead to files of one name. -/
theorem increasing_templatesOf (named : files.Named) (walked : walk files search [] folder = .ok paths) :
    (templatesOf folder search.suffix paths).Pairwise fun a b => a.name < b.name := by
  have filled := isEmpty_of_walk walked
  obtain ⟨chains, single, members, rfl⟩ := enumerates_of_walk named walked
  have apart : ((chains.map folder.descend).filterMap (templateFile? folder search.suffix)).Pairwise
      fun a b => a.name ≠ b.name := by
    rw [List.pairwise_filterMap, List.pairwise_map]
    refine single.imp_of_mem fun {names names'} inside inside' other file isFile file' isFile' same => other ?_
    have chain := (members names).mp inside
    have chain' := (members names').mp inside'
    exact ((templateAt_iff named filled chain.1 chain.2).mp isFile).names_eq named filled
      ((templateAt_iff named filled chain'.1 chain'.2).mp isFile') same
  have different := (List.mergeSort_perm _ fun a b : TemplateFile => decide (a.name ≤ b.name)).symm.pairwise apart
    fun different same => different same.symm
  have sorted : (templatesOf folder search.suffix (chains.map folder.descend)).Pairwise fun a b =>
      decide (a.name ≤ b.name) = true := List.pairwise_mergeSort
    (fun a b c => by simpa only [decide_eq_true_eq] using String.le_trans)
    (fun a b => by simpa only [Bool.or_eq_true, decide_eq_true_eq] using String.le_total a.name b.name)
    _
  refine (sorted.and different).imp fun {a b} ⟨inOrder, other⟩ => ?_
  rw [decide_eq_true_eq] at inOrder
  by_contra notLess
  exact other (String.le_antisymm inOrder (String.not_lt.mp notLess))

theorem discover_eq_gather {options : BuildOptions} {exclusion : Exclusion}
    (isFolder : files.isFolder folder = true)
    (excluded : Exclusion.ofPatterns folder options.exclude = .ok exclusion) :
    discover files options folder = gather files ⟨options.suffix, exclusion.ignores⟩ folder := by
  unfold discover
  rw [isFolder, excluded]
  rfl

theorem gather_relisted {other : FileSystem} (named : files.Named) (relisted : Relisted files other)
    (walked : walk files search [] folder = .ok paths) :
    gather other search folder = .ok (templatesOf folder search.suffix paths) := by
  obtain ⟨paths', walked'⟩ := relisted.exists_walk walked
  have irrefl : Std.Irrefl fun a b : TemplateFile => a.name < b.name := ⟨fun a => String.lt_irrefl a.name⟩
  have asymm : Std.Asymm fun a b : TemplateFile => a.name < b.name := ⟨fun a b => String.lt_asymm⟩
  rw [gather_eq walked']
  refine congrArg _ (List.Pairwise.eq_of_mem_iff (increasing_templatesOf (relisted.named named) walked')
    (increasing_templatesOf named walked) fun file => ?_)
  rw [mem_templatesOf (relisted.named named) walked', mem_templatesOf named walked]
  exact exists_congr fun names => ⟨relisted.symm.templateAt, relisted.templateAt⟩

/-- Where a walk succeeds, the template files are found that are at the ends of chains, one for each, in the
order of their names, and in whatever order the folders list their entries. -/
theorem discover_exact (named : files.Named) (walked : walk files search [] folder = .ok paths) :
    ∃ found, gather files search folder = .ok found ∧ Discovered files search folder found ∧
      (∀ other, Relisted files other → gather other search folder = .ok found) ∧
      ∀ options exclusion, Exclusion.ofPatterns folder options.exclude = .ok exclusion →
        search = ⟨options.suffix, exclusion.ignores⟩ → discover files options folder = .ok found ∧
          ∀ other, Relisted files other → discover other options folder = .ok found := by
  have found := gather_eq walked
  have again (other : FileSystem) (relisted : Relisted files other) := gather_relisted named relisted walked
  refine ⟨_, found, ?_, again, ?_⟩
  · exact .of_members named (isEmpty_of_walk walked) (increasing_templatesOf named walked)
      fun file => mem_templatesOf named walked
  · rintro options exclusion excluded rfl
    obtain ⟨place, entries, groups, led, -, held, -⟩ := walk_eq_ok walked
    have isFolder := FileSystem.isFolder_eq_true_iff.mpr ⟨place, entries, led, held⟩
    refine ⟨(discover_eq_gather isFolder excluded).trans found, fun other relisted => ?_⟩
    exact (discover_eq_gather (relisted.isFolder_of isFolder) excluded).trans (again other relisted)

/-- The folder with the page and its links, with its entries the other way round. -/
def relistedPages : FileSystem where
  root := .folder [("pages", .folder [("linked", .link ⟨"kept"⟩),
    ("kept", .folder [("page.html", .file (some "hi"))]), ("again", .link ⟨"."⟩)])]
  working := []

theorem relisted_linkedPages : Relisted linkedPages relistedPages := by
  refine Relisted.of_places rfl ?_
  decide +kernel

theorem discover_exact_linkedPages : ∃ found, found.map TemplateFile.name = ["kept/page", "linked/page"] ∧
    Discovered linkedPages onward ⟨"pages"⟩ found ∧
    ∀ files ∈ [linkedPages, relistedPages], gather files onward ⟨"pages"⟩ = .ok found ∧
      discover files { suffix := ".html", exclude := ["again"] } ⟨"pages"⟩ = .ok found := by
  have excluded : Exclusion.ofPatterns ⟨"pages"⟩ ["again"] = .ok withoutAgain := by with_unfolding_all rfl
  obtain ⟨found, gathered, exactly, again, every⟩ := discover_exact named_linkedPages walk_linkedPages
  obtain ⟨discovered, again'⟩ := every { suffix := ".html", exclude := ["again"] } withoutAgain excluded rfl
  refine ⟨found, ?_, exactly, ?_⟩
  · rw [gather_eq walk_linkedPages] at gathered
    obtain rfl := Except.ok.inj gathered
    unfold templatesOf
    rw [List.mergeSort_of_pairwise (by decide +kernel)]
    decide +kernel
  · rw [List.forall_mem_cons, List.forall_mem_singleton]
    exact ⟨⟨gathered, discovered⟩, again _ relisted_linkedPages, again' _ relisted_linkedPages⟩

end Gathering

end BlockTemplates
