import BlockTemplates.Toml

/-! Tables while they are being written. A table can be opened by a header once, and one that
dotted keys have made cannot be opened at all; dotted keys add to tables that they have made or
passed through, never to one that a header has opened. Values, inline tables among them, do not
change. -/

namespace BlockTemplates.Toml

inductive Origin where
  /-- Made on the way to a table further down. -/
  | passed
  | dotted
  | headed
  deriving Repr, DecidableEq, Inhabited

inductive Draft where
  | value (v : Toml)
  | table (origin : Origin) (entries : List (String × Draft))
  | tables (done : List (List (String × Draft)))
  deriving Repr, Inhabited

namespace Draft

abbrev Entries := List (String × Draft)

def within? (byKey : Bool) (change : Origin → Entries → Option Entries) (origin : Origin) (entries : Entries) :
    List String → Option Entries
  | [] => change origin entries
  | key :: rest =>
    match entries.lookup key with
    | none =>
      let made := if byKey then Origin.dotted else .passed
      (within? byKey change made [] rest).map (fun inner => Dict.insertEntry key (.table made inner) entries)
    | some (.table origin inner) =>
      if byKey && origin = .headed then none
      else
        (within? byKey change origin inner rest).map (fun inner =>
          Dict.insertEntry key (.table origin inner) entries)
    | some (.tables (last :: before)) =>
      (within? byKey change .headed last rest).map (fun last =>
        Dict.insertEntry key (.tables (last :: before)) entries)
    | some _ => none

def insert? (path : List String) (v : Toml) (entries : Entries) : Option Entries := do
  let key ← path.getLast?
  let way := path.dropLast
  within? true (fun origin inner =>
    if (origin = .dotted) = !way.isEmpty ∧ (inner.lookup key).isNone then
      some (Dict.insertEntry key (.value v) inner)
    else none) .headed entries way

/-- The entries with the table at a path opened by a header. -/
def openTable? (path : List String) (entries : Entries) : Option Entries := do
  let key ← path.getLast?
  within? false (fun _ inner =>
    match inner.lookup key with
    | none => some (Dict.insertEntry key (.table .headed []) inner)
    | some (.table .passed further) => some (Dict.insertEntry key (.table .headed further) inner)
    | some _ => none) .headed entries path.dropLast

def addTable? (path : List String) (entries : Entries) : Option Entries := do
  let key ← path.getLast?
  within? false (fun _ inner =>
    match inner.lookup key with
    | none => some (Dict.insertEntry key (.tables [[]]) inner)
    | some (.tables done) => some (Dict.insertEntry key (.tables ([] :: done)) inner)
    | some _ => none) .headed entries path.dropLast

mutual

def finish : Draft → Toml
  | .value v => v
  | .table _ entries => .table (finishEntries entries)
  | .tables done => .array (finishTables done).reverse

def finishEntries : Entries → List (String × Toml)
  | [] => []
  | (key, draft) :: rest => (key, finish draft) :: finishEntries rest

def finishTables : List Entries → List Toml
  | [] => []
  | entries :: rest => .table (finishEntries entries) :: finishTables rest

end

end Draft

def inlineTable? (fields : List (List String × Toml)) : Option Toml :=
  (fields.foldlM (fun entries field => Draft.insert? field.1 field.2 entries) []).map
    (fun entries => .table (Draft.finishEntries entries))

inductive Statement where
  /-- The lines that follow are about the table at a path, which is the next one of a list when
  `isList`. -/
  | header (path : List String) (isList : Bool)
  | entry (path : List String) (v : Toml)
  deriving Repr, Inhabited

/-- The tables of a document so far, and the path of the table that its lines are about. -/
structure Draft.Document where
  entries : Draft.Entries
  current : List String
  deriving Inhabited

def Draft.Document.add? (document : Draft.Document) : Statement → Option Draft.Document
  | .header path isList =>
    let opened := if isList then Draft.addTable? path document.entries else Draft.openTable? path document.entries
    opened.map (⟨·, path⟩)
  | .entry path v =>
    let changed :=
      Draft.within? false (fun _ inner => Draft.insert? path v inner) .headed document.entries document.current
    changed.map (⟨·, document.current⟩)

def ofStatements? (statements : List Statement) : Option Toml :=
  (statements.foldlM Draft.Document.add? ⟨[], []⟩).map (fun document =>
    .table (Draft.finishEntries document.entries))

end BlockTemplates.Toml
