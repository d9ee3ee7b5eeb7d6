import BlockTemplates.Proofs.Files.Path

/-! What a path leads to. Pieces that stand for no component can be left out of a path that leads
somewhere, so what is read depends on the components only. Main statements: `readText_eq`, and
`sameText_of_discover` for template files of one name. -/

namespace BlockTemplates

open BlockTemplates.Path (component?)

theorem Node.folder_ne_link (entries : List (String × Node)) (target : Path) : folder entries ≠ link target := by
  intro same
  cases same

theorem Node.file_ne_link (content : Option String) (target : Path) : file content ≠ link target := by
  intro same
  cases same

namespace FileSystem

section Steps

variable {files : FileSystem} {follows : Bool} {links : Nat} {place : Place} {entries : List (String × Node)}
  {piece : String} {rest : List String}

theorem locateFrom_blank (found : files.node? place = some (.folder entries))
    (blank : piece = "" ∨ piece = ".") :
    files.locateFrom follows links place (piece :: rest) = files.locateFrom follows links place rest := by
  rw [locateFrom, found]
  dsimp only
  rw [if_pos blank]

theorem locateFrom_up (found : files.node? place = some (.folder entries)) :
    files.locateFrom follows links place (".." :: rest) =
      files.locateFrom follows links place.dropLast rest := by
  rw [locateFrom, found]
  dsimp only
  rw [if_neg (by decide), if_pos rfl]

theorem locateFrom_solid (found : files.node? place = some (.folder entries))
    (solid : ¬ (piece = "" ∨ piece = ".")) (down : piece ≠ "..") (short : ¬ maxName < piece.utf8ByteSize)
    {node : Node} (held : entries.lookup piece = some node) (unlinked : ∀ target, node ≠ .link target) :
    files.locateFrom follows links place (piece :: rest) =
      files.locateFrom follows links (place ++ [piece]) rest := by
  rw [locateFrom, found]
  dsimp only
  rw [if_neg solid, if_neg down, if_neg short, held]
  cases node with
  | link target => exact absurd rfl (unlinked target)
  | file content => rfl
  | folder entries => rfl

/-- A link is followed where something comes after it, or where links are followed at the end too. -/
theorem locateFrom_through (found : files.node? place = some (.folder entries))
    (solid : ¬ (piece = "" ∨ piece = ".")) (down : piece ≠ "..") (short : ¬ maxName < piece.utf8ByteSize)
    {target : Path} (held : entries.lookup piece = some (.link target))
    (passed : ¬ (rest.all (· = "") && !follows) = true) :
    files.locateFrom follows (links + 1) place (piece :: rest) =
      files.locateFrom follows links (if target.isAbsolute then [] else place) (target.pieces ++ rest) := by
  rw [locateFrom, found]
  dsimp only
  rw [if_neg solid, if_neg down, if_neg short, held]
  dsimp only
  rw [if_neg passed]

theorem locateFrom_link (found : files.node? place = some (.folder entries))
    (solid : ¬ (piece = "" ∨ piece = ".")) (down : piece ≠ "..") (short : ¬ maxName < piece.utf8ByteSize)
    {target : Path} (held : entries.lookup piece = some (.link target)) :
    files.locateFrom true (links + 1) place (piece :: rest) =
      files.locateFrom true links (if target.isAbsolute then [] else place) (target.pieces ++ rest) :=
  locateFrom_through found solid down short held (by simp)

end Steps

variable {files : FileSystem}

theorem exists_cons_of_append {before after rest : List String} {piece first : String}
    (blank : piece = "" ∨ piece = ".") (solid : ¬ (first = "" ∨ first = "."))
    (whole : before ++ piece :: after = first :: rest) :
    ∃ before', before = first :: before' ∧ before' ++ piece :: after = rest := by
  cases before with
  | nil =>
    obtain ⟨rfl, -⟩ := List.cons.inj whole
    exact absurd blank solid
  | cons other before =>
    obtain ⟨rfl, same⟩ := List.cons.inj whole
    exact ⟨before, rfl, same⟩

/-- A piece that stands for no component can be left out. The pieces in front of it change with each
link that is followed. -/
theorem locateFrom_drop {links : Nat} {place target : Place} {before after : List String} {piece : String}
    (blank : piece = "" ∨ piece = ".")
    (led : files.locateFrom true links place (before ++ piece :: after) = .ok (.present target)) :
    files.locateFrom true links place (before ++ after) = .ok (.present target) := by
  generalize whole : before ++ piece :: after = pieces at led
  fun_induction locateFrom files true links place pieces generalizing before
  case case1 => exact absurd whole (List.append_ne_nil_of_right_ne_nil _ (List.cons_ne_nil _ _))
  case case2 found blank' ih =>
    cases before with
    | nil =>
      obtain ⟨-, rfl⟩ := List.cons.inj whole
      exact led
    | cons first before =>
      obtain ⟨rfl, same⟩ := List.cons.inj whole
      rw [List.cons_append, locateFrom_blank found blank']
      exact ih same led
  case case3 found solid ih =>
    obtain ⟨before, rfl, same⟩ := exists_cons_of_append blank solid whole
    rw [List.cons_append, locateFrom_up found]
    exact ih same led
  case case7 ended => simp at ended
  case case9 found solid down short link held _ links ih =>
    obtain ⟨before, rfl, rfl⟩ := exists_cons_of_append blank solid whole
    rw [List.cons_append, locateFrom_link found solid down short held, ← List.append_assoc]
    exact ih (List.append_assoc _ _ _) led
  case case10 found solid down short node unlinked held ih =>
    obtain ⟨before, rfl, same⟩ := exists_cons_of_append blank solid whole
    rw [List.cons_append, locateFrom_solid found solid down short held]
    · exact ih same led
    · exact fun target link => unlinked target link
  all_goals cases led

theorem locateFrom_components {links : Nat} {place target : Place} {pieces : List String}
    (before : List String)
    (led : files.locateFrom true links place (before ++ pieces) = .ok (.present target)) :
    files.locateFrom true links place
      (before ++ (pieces.filterMap component?).map Path.Component.text) = .ok (.present target) := by
  induction pieces generalizing before with
  | nil => exact led
  | cons piece pieces ih =>
    cases read : component? piece with
    | none =>
      rw [List.filterMap_cons_none read]
      exact ih before (locateFrom_drop (Path.component?_eq_none_iff.mp read) led)
    | some component =>
      rw [List.append_cons] at led
      rw [List.filterMap_cons_some read, List.map_cons, Path.text_of_component? read, List.append_cons]
      exact ih (before ++ [piece]) led

theorem locateFrom_of_resolve {path : Path} {place : Place} (led : files.resolve path = .ok place) :
    files.locateFrom true maxLinks (if path.components.head? = some .root then [] else files.working)
      ((path.components.filter Path.Component.isPlain).map Path.Component.text) = .ok (.present place) := by
  have located : files.locate true path = .ok (.present place) := by
    unfold resolve at led
    generalize files.locate true path = answer at led
    rcases answer with error | target
    · cases led
    · cases target with
      | present other => rw [Except.ok.inj led]
      | absent folder name slashed => cases led
  unfold locate at located
  split at located
  · cases located
  · split at located
    · cases located
    · rw [Path.filter_components, ← ite_congr (propext Path.isAbsolute_iff) (fun _ => rfl) fun _ => rfl]
      exact locateFrom_components [] located

theorem resolve_eq {path path' : Path} (same : path.components = path'.components)
    {place place' : Place} (led : files.resolve path = .ok place) (led' : files.resolve path' = .ok place') :
    place = place' := by
  have first := locateFrom_of_resolve led
  have second := locateFrom_of_resolve led'
  rw [same, second] at first
  exact (Target.present.inj (Except.ok.inj first)).symm

theorem readText_eq_ok {path : Path} {text : String} (read : files.readText path = .ok text) :
    ∃ place, files.resolve path = .ok place ∧ files.node? place = some (.file (some text)) := by
  unfold readText stat at read
  cases led : files.resolve path with
  | error error =>
    rw [led] at read
    cases read
  | ok place =>
    rw [led] at read
    refine ⟨place, rfl, ?_⟩
    simp only [bind, Except.bind] at read
    cases held : files.node? place with
    | none =>
      rw [held] at read
      cases read
    | some node =>
      rw [held] at read
      rcases node with ⟨_ | content⟩ | entries | target
      · cases read
      · rw [← Except.ok.inj read]
      · cases read
      · cases read

theorem readText_of_held {path : Path} {place : Place} {text : String} (led : files.resolve path = .ok place)
    (held : files.node? place = some (.file (some text))) : files.readText path = .ok text := by
  unfold readText stat
  rw [led]
  simp only [bind, Except.bind, held]
  rfl

theorem readText_eq {path path' : Path} (same : path.components = path'.components)
    {text text' : String} (read : files.readText path = .ok text) (read' : files.readText path' = .ok text') :
    text = text' := by
  obtain ⟨place, led, held⟩ := readText_eq_ok read
  obtain ⟨place', led', held'⟩ := readText_eq_ok read'
  obtain rfl := resolve_eq same led led'
  rw [held] at held'
  exact Option.some.inj (Node.file.inj (Option.some.inj held'))

end FileSystem

section Discovery

variable {files : FileSystem} {options : BuildOptions} {folder : Path} {found : List TemplateFile}

theorem walk_eq {search : Search} {ancestors : List Place} {place : Place} {entries : List (String × Node)}
    (led : files.resolve folder = .ok place) (new : ancestors.contains place = false)
    (held : files.node? place = some (.folder entries)) :
    walk files search ancestors folder = do
      let paths ← entries.mapM (fun entry => do
        let path := folder.join ⟨entry.1⟩
        let isFolder := files.isFolder path
        if search.ignores path isFolder then return []
        else if isFolder then walk files search (place :: ancestors) path
        else if (Text.stripEnd? search.suffix.toList entry.1.toList).isSome then return [path]
        else return [])
      return paths.flatten := by
  rw [walk, led]
  dsimp only
  split
  · next seen =>
    rw [new] at seen
    cases seen
  · split
    · next others same =>
      rw [held] at same
      obtain rfl := Node.folder.inj (Option.some.inj same)
      rfl
    · next other => exact absurd held (other entries)

theorem templateName?_of_discover (discovered : discover files options folder = .ok found)
    {file : TemplateFile} (member : file ∈ found) :
    templateName? folder file.path options.suffix = some file.name := by
  unfold discover gather at discovered
  simp only [bind, Except.bind] at discovered
  split at discovered
  · cases discovered
  · split at discovered
    · cases discovered
    · split at discovered
      · cases discovered
      · obtain rfl := Except.ok.inj discovered
        obtain ⟨path, -, kept⟩ := List.mem_filterMap.mp (List.mem_mergeSort.mp member)
        obtain ⟨name, named, rfl⟩ := Option.map_eq_some_iff.mp kept
        exact named

/-- Template files of one name have one text. -/
theorem sameText_of_discover (discovered : discover files options folder = .ok found)
    {file file' : TemplateFile} (member : file ∈ found) (member' : file' ∈ found)
    (sameName : file.name = file'.name) {text text' : String} (read : files.readText file.path = .ok text)
    (read' : files.readText file'.path = .ok text') : text = text' := by
  have named := templateName?_of_discover discovered member
  rw [sameName] at named
  have same := components_eq_of_templateName? named (templateName?_of_discover discovered member')
  exact FileSystem.readText_eq same read read'

end Discovery

end BlockTemplates
