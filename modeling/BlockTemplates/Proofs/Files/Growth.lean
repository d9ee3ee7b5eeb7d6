import BlockTemplates.Proofs.Files.Reading

/-! What making folders and writing a file do to a file system. Nothing that was there is lost or
changes its kind; what is new are folders, and the one file that has been written. Main statements:
`Grown.trans`, `grown_create` and `grown_createFolders`. -/

namespace BlockTemplates

theorem Text.mem_of_mem_splitBy {p : Char → Bool} {s piece : List Char} (found : piece ∈ splitBy p s) {c : Char}
    (inside : c ∈ piece) : c ∈ s := by
  induction s generalizing piece with
  | nil =>
    obtain rfl := List.mem_singleton.mp found
    cases inside
  | cons d s ih =>
    unfold splitBy at found
    split at found
    · rcases List.mem_cons.mp found with rfl | later
      · cases inside
      · exact List.mem_cons_of_mem _ (ih later inside)
    · generalize splitBy p s = others at found ih
      cases others with
      | nil =>
        obtain rfl := List.mem_singleton.mp found
        exact List.mem_cons.mpr (.inl (List.mem_singleton.mp inside))
      | cons first others =>
        rcases List.mem_cons.mp found with rfl | later
        · rcases List.mem_cons.mp inside with rfl | other
          · exact List.mem_cons_self
          · exact List.mem_cons_of_mem _ (ih List.mem_cons_self other)
        · exact List.mem_cons_of_mem _ (ih (List.mem_cons_of_mem _ later) inside)

theorem Path.mem_of_mem_pieces {path : Path} {piece : String} (found : piece ∈ path.pieces) {c : Char}
    (inside : c ∈ piece.toList) : c ∈ path.text.toList := by
  obtain ⟨chars, member, rfl⟩ := List.mem_map.mp found
  rw [String.toList_ofList] at inside
  exact Text.mem_of_mem_splitBy member inside

namespace Node

theorem get?_append (node : Node) (above below : Place) :
    node.get? (above ++ below) = (node.get? above).bind fun inner => inner.get? below := by
  induction above generalizing node with
  | nil => cases node <;> rfl
  | cons name above ih =>
    cases node with
    | folder entries =>
      rw [List.cons_append, get?, get?, Option.bind_assoc]
      exact Option.bind_congr fun inner _ => ih inner
    | file content => rfl
    | link target => rfl

/-- What is at a place once there is a new node at another one: a part of the new node, a folder
with one entry replaced or added, or what was there before. -/
theorem get?_set (node new : Node) (place other : Place) :
    (∃ rest, other = place ++ rest ∧ (node.set (some new) place).get? other = new.get? rest) ∨
      (∃ name rest inner entries, place = other ++ name :: rest ∧
        node.get? other = some (folder entries) ∧
        (node.set (some new) place).get? other = some (folder (setEntry name (some inner) entries))) ∨
      (node.set (some new) place).get? other = node.get? other := by
  fun_induction set (some new) node place generalizing other with
  | case1 node => exact .inl ⟨other, rfl, rfl⟩
  | case2 entries name =>
    cases other with
    | nil => exact .inr (.inl ⟨name, [], new, entries, rfl, rfl, rfl⟩)
    | cons first rest =>
      simp only [get?, setEntry, Dict.lookup_insertEntry]
      split
      · next same => exact .inl ⟨rest, by rw [same]; rfl, rfl⟩
      · exact .inr (.inr rfl)
  | case3 => exact .inr (.inr rfl)
  | case4 entries name more _ inner held ih =>
    cases other with
    | nil => exact .inr (.inl ⟨name, more, inner.set (some new) more, entries, rfl, rfl, rfl⟩)
    | cons first rest =>
      simp only [get?, setEntry, Dict.lookup_insertEntry]
      split
      · next same =>
        subst same
        rw [held]
        rcases ih rest with ⟨below, whole, found⟩ | ⟨key, below, other, others, whole, old, found⟩ | found
        · exact .inl ⟨below, congrArg _ whole, found⟩
        · exact .inr (.inl ⟨key, below, other, others, congrArg _ whole, old, found⟩)
        · exact .inr (.inr found)
      · exact .inr (.inr rfl)
  | case5 => exact .inr (.inr rfl)

/-- What can become of what is at a place. Only where the file is that has been written, a file can
appear or get another text. -/
inductive Grows (written : Prop) : Option Node → Option Node → Prop
  | same (node : Option Node) : Grows written node node
  | folder (entries entries' : List (String × Node)) :
      Grows written (some (.folder entries)) (some (.folder entries'))
  | made (entries : List (String × Node)) : Grows written none (some (.folder entries))
  | created (here : written) (content : Option String) : Grows written none (some (.file content))
  | rewritten (here : written) (content content' : Option String) :
      Grows written (some (.file content)) (some (.file content'))

section Grows

variable {written : Prop} {before middle after : Option Node}

theorem Grows.trans (first : Grows written before middle) (second : Grows written middle after) :
    Grows written before after := by
  cases first with
  | same => exact second
  | folder entries =>
    cases second with
    | same => exact .folder _ _
    | folder => exact .folder _ _
  | made entries =>
    cases second with
    | same => exact .made _
    | folder => exact .made _
  | created here =>
    cases second with
    | same => exact .created here _
    | rewritten => exact .created here _
  | rewritten here =>
    cases second with
    | same => exact .rewritten here _ _
    | rewritten => exact .rewritten here _ _

theorem Grows.mono {written' : Prop} (weaker : written → written') (grows : Grows written before after) :
    Grows written' before after := by
  cases grows with
  | same => exact .same _
  | folder => exact .folder _ _
  | made => exact .made _
  | created here => exact .created (weaker here) _
  | rewritten here => exact .rewritten (weaker here) _ _

theorem Grows.of_folder {entries : List (String × Node)}
    (grows : Grows written (some (.folder entries)) after) : ∃ entries', after = some (.folder entries') := by
  cases grows with
  | same => exact ⟨_, rfl⟩
  | folder => exact ⟨_, rfl⟩

end Grows

end Node

namespace FileSystem

structure ProperName (name : String) : Prop where
  solid : name ≠ "" ∧ name ≠ "." ∧ name ≠ ".."
  single : '/' ∉ name.toList
  valid : '\x00' ∉ name.toList
  short : name.utf8ByteSize ≤ maxName

instance (name : String) : Decidable (ProperName name) :=
  decidable_of_iff ((name ≠ "" ∧ name ≠ "." ∧ name ≠ "..") ∧ '/' ∉ name.toList ∧ '\x00' ∉ name.toList ∧
      name.utf8ByteSize ≤ maxName)
    ⟨fun ⟨solid, single, valid, short⟩ => ⟨solid, single, valid, short⟩,
      fun ⟨solid, single, valid, short⟩ => ⟨solid, single, valid, short⟩⟩

/-- Folders hold their entries in order and under proper names, and links hold paths that the system
can have. -/
structure Sound (files : FileSystem) : Prop where
  increasing : ∀ place entries, files.node? place = some (.folder entries) → Increasing entries
  names : ∀ place entries, files.node? place = some (.folder entries) →
    ∀ entry ∈ entries, ProperName entry.1
  links : ∀ place target, files.node? place = some (.link target) → '\x00' ∉ target.text.toList

def SoundNode : Node → Prop
  | .file _ => True
  | .folder entries => Increasing entries ∧ ∀ entry ∈ entries, ProperName entry.1
  | .link target => '\x00' ∉ target.text.toList

instance : DecidablePred SoundNode
  | .file _ => inferInstanceAs (Decidable True)
  | .folder entries => inferInstanceAs
      (Decidable (entries.Pairwise (fun a b => a.1 < b.1) ∧ ∀ entry ∈ entries, ProperName entry.1))
  | .link target => inferInstanceAs (Decidable ('\x00' ∉ target.text.toList))

variable {files before middle after : FileSystem} {written : Option Place}

theorem Sound.of_places
    (each : ∀ place ∈ files.root.places, ∀ node ∈ files.node? place, SoundNode node) : files.Sound where
  increasing place _ held := (each place (Node.mem_places held) _ held).1
  names place _ held := (each place (Node.mem_places held) _ held).2
  links place _ held := each place (Node.mem_places held) _ held

section Places

theorem node?_append_singleton {place : Place} {entries : List (String × Node)}
    (held : files.node? place = some (.folder entries)) (name : String) :
    files.node? (place ++ [name]) = entries.lookup name := by
  unfold node? at held ⊢
  rw [Node.get?_append, held, Option.bind_some]
  cases found : entries.lookup name with
  | none => simp [Node.get?, found]
  | some node => cases node <;> simp [Node.get?, found]

/-- Where a node is, the nodes above it are folders. -/
theorem exists_folder_of_node? {above : Place} {name : String} {rest : Place} {node : Node}
    (held : files.node? (above ++ name :: rest) = some node) :
    ∃ entries, files.node? above = some (.folder entries) ∧ ∃ inner, entries.lookup name = some inner := by
  unfold node? at held ⊢
  rw [Node.get?_append, Option.bind_eq_some_iff] at held
  obtain ⟨inner, reached, below⟩ := held
  cases inner with
  | folder entries =>
    rw [Node.get?, Option.bind_eq_some_iff] at below
    obtain ⟨next, found, -⟩ := below
    exact ⟨entries, reached, next, found⟩
  | file content => cases below
  | link target => cases below

theorem node?_append_none {place : Place} (missing : files.node? place = none) (below : Place) :
    files.node? (place ++ below) = none := by
  unfold node? at missing ⊢
  rw [Node.get?_append, missing]
  rfl

theorem Sound.properName_of_lookup {place : Place} {entries : List (String × Node)} (sound : files.Sound)
    (held : files.node? place = some (.folder entries)) {name : String} {node : Node}
    (found : entries.lookup name = some node) : ProperName name := by
  obtain ⟨_, _, whole, -⟩ := List.lookup_eq_some_iff.mp found
  refine sound.names place entries held (name, node) ?_
  rw [whole]
  exact List.mem_append_right _ List.mem_cons_self

theorem Sound.properName {place : Place} {node : Node} (sound : files.Sound)
    (held : files.node? place = some node) {name : String} (inside : name ∈ place) : ProperName name := by
  obtain ⟨above, rest, rfl⟩ := List.append_of_mem inside
  obtain ⟨entries, folder, inner, found⟩ := exists_folder_of_node? held
  exact sound.properName_of_lookup folder found

end Places

inductive Leaf : Node → Prop
  | empty : Leaf .empty
  | file (content : Option String) : Leaf (.file content)

theorem Leaf.get?_cons {node : Node} (leaf : Leaf node) (name : String) (rest : Place) :
    node.get? (name :: rest) = none := by
  cases leaf with
  | empty => rfl
  | file content => rfl

theorem Leaf.get?_nil {node : Node} (leaf : Leaf node) : node.get? [] = some node := by
  cases leaf with
  | empty => rfl
  | file content => rfl

theorem node?_put {new : Node} (leaf : Leaf new) (place other : Place) :
    (other = place ∧ (files.put place (some new)).node? other = some new) ∨
      (∃ name rest, other = place ++ name :: rest ∧ (files.put place (some new)).node? other = none) ∨
      (∃ name rest inner entries, place = other ++ name :: rest ∧
        files.node? other = some (.folder entries) ∧
        (files.put place (some new)).node? other =
          some (.folder (Dict.insertEntry name inner entries))) ∨
      (files.put place (some new)).node? other = files.node? other := by
  rcases Node.get?_set files.root new place other with ⟨rest, whole, found⟩ | found | found
  · cases rest with
    | nil => exact .inl ⟨by rw [whole, List.append_nil], found.trans leaf.get?_nil⟩
    | cons name rest => exact .inr (.inl ⟨name, rest, whole, found.trans (leaf.get?_cons name rest)⟩)
  · exact .inr (.inr (.inl found))
  · exact .inr (.inr (.inr found))

theorem Sound.put {new : Node} (sound : files.Sound) (leaf : Leaf new) {place : Place}
    (proper : ∀ name ∈ place, ProperName name) : (files.put place (some new)).Sound where
  increasing := by
    intro other entries held
    rcases node?_put leaf place other with
      ⟨-, found⟩ | ⟨-, -, -, found⟩ | ⟨name, rest, inner, old, -, folder, found⟩ | found
    all_goals rw [found] at held
    · cases leaf with
      | empty => cases held; exact .nil
      | file content => cases held
    · cases held
    · cases held
      exact Dict.insertEntry_increasing name inner (sound.increasing other old folder)
    · exact sound.increasing other entries held
  names := by
    intro other entries held entry inside
    rcases node?_put leaf place other with
      ⟨-, found⟩ | ⟨-, -, -, found⟩ | ⟨name, rest, inner, old, whole, folder, found⟩ | found
    all_goals rw [found] at held
    · cases leaf with
      | empty => cases held; exact absurd inside List.not_mem_nil
      | file content => cases held
    · cases held
    · cases held
      rcases Dict.mem_insertEntry inside with rfl | inside
      · exact proper name (by rw [whole]; exact List.mem_append_right _ List.mem_cons_self)
      · exact sound.names other old folder entry inside
    · exact sound.names other entries held entry inside
  links := by
    intro other target held
    rcases node?_put leaf place other with
      ⟨-, found⟩ | ⟨-, -, -, found⟩ | ⟨name, rest, inner, old, -, -, found⟩ | found
    all_goals rw [found] at held
    · cases leaf with
      | empty => cases held
      | file content => cases held
    · cases held
    · cases held
    · exact sound.links other target held

/-- Folders have been made and nothing else has changed, apart from a file that may have been
written at a place. -/
structure Grown (written : Option Place) (before after : FileSystem) : Prop where
  working : after.working = before.working
  nodes : ∀ place, Node.Grows (written = some place) (before.node? place) (after.node? place)
  sound : before.Sound → after.Sound

theorem Grown.refl (written : Option Place) (files : FileSystem) : Grown written files files where
  working := rfl
  nodes := fun _ => .same _
  sound := id

theorem Grown.trans (first : Grown written before middle) (second : Grown written middle after) :
    Grown written before after where
  working := second.working.trans first.working
  nodes := fun place => (first.nodes place).trans (second.nodes place)
  sound := second.sound ∘ first.sound

theorem grown_put {new : Node} (leaf : Leaf new) {place : Place}
    (bare : ∀ name rest, files.node? (place ++ name :: rest) = none)
    (grows : Node.Grows (written = some place) (files.node? place) (some new))
    (proper : files.Sound → ∀ name ∈ place, ProperName name) :
    Grown written files (files.put place (some new)) where
  working := rfl
  nodes := by
    intro other
    rcases node?_put leaf place other with
      ⟨rfl, found⟩ | ⟨name, rest, rfl, found⟩ | ⟨name, rest, inner, old, -, folder, found⟩ | found
    all_goals rw [found]
    · exact grows
    · rw [bare]
      exact .same none
    · rw [folder]
      exact .folder _ _
    · exact .same _
  sound := fun sound => sound.put leaf (proper sound)

/-- A name of the given pieces, or of those of a link, that could be added to a folder. -/
structure Addable (files : FileSystem) (pieces : List String) (folder : Place) (name : String) : Prop where
  held : ∃ entries, files.node? folder = some (.folder entries)
  free : files.node? (folder ++ [name]) = none
  solid : name ≠ "" ∧ name ≠ "." ∧ name ≠ ".."
  short : name.utf8ByteSize ≤ maxName
  spelled : name ∈ pieces ∨ ∃ place target, files.node? place = some (.link target) ∧ name ∈ target.pieces

theorem Addable.mono {pieces pieces' : List String} {folder : Place} {name : String}
    (addable : Addable files pieces folder name)
    (more : name ∈ pieces →
      name ∈ pieces' ∨ ∃ place target, files.node? place = some (.link target) ∧ name ∈ target.pieces) :
    Addable files pieces' folder name :=
  { addable with spelled := addable.spelled.elim more .inr }

theorem addable_of_locateFrom {follows slashed : Bool} {links : Nat} {place folder : Place}
    {pieces : List String} {name : String}
    (located : files.locateFrom follows links place pieces = .ok (.absent folder name slashed)) :
    Addable files pieces folder name := by
  fun_induction locateFrom files follows links place pieces with
  | case1 => cases located
  | case2 _ _ _ _ _ _ _ ih => exact (ih located).mono fun found => .inl (List.mem_cons_of_mem _ found)
  | case3 _ _ _ _ _ _ ih => exact (ih located).mono fun found => .inl (List.mem_cons_of_mem _ found)
  | case4 => cases located
  | case5 _ place piece rest entries held solid up short free =>
    obtain ⟨rfl, rfl, -⟩ := Target.absent.inj (Except.ok.inj located)
    rw [not_or] at solid
    exact {
      held := ⟨entries, held⟩
      free := by rw [node?_append_singleton held, free]
      solid := ⟨solid.1, solid.2, up⟩
      short := Nat.not_lt.mp short
      spelled := .inl List.mem_cons_self }
  | case6 => cases located
  | case7 => cases located
  | case8 => cases located
  | case9 place piece rest entries held _ _ _ target linked _ links ih =>
    apply (ih located).mono
    intro found
    rcases List.mem_append.mp found with inside | later
    · exact .inr ⟨place ++ [piece], target, by rw [node?_append_singleton held, linked], inside⟩
    · exact .inl (List.mem_cons_of_mem _ later)
  | case10 _ _ _ _ _ _ _ _ _ _ _ _ ih => exact (ih located).mono fun found => .inl (List.mem_cons_of_mem _ found)
  | case11 => cases located

theorem addable_of_locate {follows slashed : Bool} {path : Path} {folder : Place} {name : String}
    (located : files.locate follows path = .ok (.absent folder name slashed)) :
    Addable files path.pieces folder name ∧ '\x00' ∉ path.text.toList := by
  unfold locate at located
  split at located
  · cases located
  · split at located
    · cases located
    · next valid => exact ⟨addable_of_locateFrom located, by simpa using valid⟩

theorem Addable.properName {path : Path} {folder : Place} {name : String}
    (addable : Addable files path.pieces folder name) (valid : '\x00' ∉ path.text.toList) (sound : files.Sound) :
    ProperName name where
  solid := addable.solid
  short := addable.short
  single := by
    rcases addable.spelled with found | ⟨place, target, -, found⟩
    · exact Path.notMem_of_mem_pieces found
    · exact Path.notMem_of_mem_pieces found
  valid := by
    intro inside
    rcases addable.spelled with found | ⟨place, target, held, found⟩
    · exact valid (Path.mem_of_mem_pieces found inside)
    · exact sound.links place target held (Path.mem_of_mem_pieces found inside)

theorem grown_of_addable {path : Path} {folder : Place} {name : String}
    (addable : Addable files path.pieces folder name) (valid : '\x00' ∉ path.text.toList) {new : Node}
    (leaf : Leaf new) (grows : Node.Grows (written = some (folder ++ [name])) none (some new)) :
    Grown written files (files.put (folder ++ [name]) (some new)) := by
  apply grown_put leaf
  · exact fun _ _ => node?_append_none addable.free _
  · rw [addable.free]
    exact grows
  · intro sound other inside
    obtain ⟨entries, held⟩ := addable.held
    rcases List.mem_append.mp inside with above | last
    · exact sound.properName held above
    · obtain rfl := List.mem_singleton.mp last
      exact addable.properName valid sound

section Steps

variable {path : Path}

theorem grown_create {changed : FileSystem} (created : files.create path .empty = .ok changed) :
    Grown none files changed := by
  unfold create at created
  cases located : files.locate false path with
  | error error =>
    rw [located] at created
    cases created
  | ok target =>
    rw [located] at created
    cases target with
    | present place => cases created
    | absent folder name slashed =>
      obtain rfl := Except.ok.inj created
      obtain ⟨addable, valid⟩ := addable_of_locate located
      exact grown_of_addable addable valid .empty (.made [])

theorem grown_step {result : Except SystemError FileSystem}
    (grown : ∀ changed, result = .ok changed → Grown written files changed) :
    Grown written files (Change.step files result).files := by
  cases result with
  | error error => exact .refl written files
  | ok changed => exact grown changed rfl

theorem grown_andThen {change : Change} {next : FileSystem → Change} (first : Grown written files change.files)
    (second : ∀ files, Grown written files (next files).files) :
    Grown written files (change.andThen next).files := by
  unfold Change.andThen
  split
  · exact first.trans (second change.files)
  · exact first

theorem grown_createFoldersOf (components : List Path.Component) :
    Grown none files (files.createFoldersOf components).files := by
  induction components generalizing files with
  | nil => exact .refl none files
  | cons last before ih =>
    have attempt (files : FileSystem) (path : Path) :
        Grown none files (if files.isFolder path then (⟨files, none⟩ : Change)
          else .step files (files.create path .empty)).files := by
      split
      · exact .refl none files
      · exact grown_step fun changed => grown_create
    unfold createFoldersOf
    dsimp only
    split
    · exact grown_andThen ih fun files => attempt files _
    · exact attempt files _

theorem grown_createFolders (files : FileSystem) (path : Path) :
    Grown none files (files.createFolders path).files :=
  grown_createFoldersOf _

end Steps

end FileSystem

end BlockTemplates
