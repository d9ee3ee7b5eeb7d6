import BlockTemplates.Proofs.Dict
import BlockTemplates.Proofs.Json.Document
import BlockTemplates.Proofs.Toml.Data

/-! Data files. A data file holds a table with each key once, in any format, or something else; and it
fails in the reading before its format counts. Main statements: `ordered_of_readDataFile` and
`readDataFile_eq_error_iff`. -/

namespace BlockTemplates

namespace Data

/-- A table has its keys in order. -/
def Ordered : Data → Prop
  | .table entries => Increasing entries
  | _ => True

theorem ordered_ofEntries (entries : List (String × Data)) : (ofEntries entries).Ordered :=
  (Dict.ofList entries).increasing

end Data

def OrderedIfSome (read : Option Data) : Prop := ∀ data, read = some data → data.Ordered

namespace OrderedIfSome

theorem none : OrderedIfSome .none := nofun

theorem some {data : Data} (ordered : data.Ordered) : OrderedIfSome (.some data) := by
  rintro _ ⟨⟩
  exact ordered

theorem map {α : Type} {wrap : α → Data} (wraps : ∀ value, (wrap value).Ordered) (read : Option α) :
    OrderedIfSome (read.map wrap) := by
  cases read with
  | none => exact .none
  | some value => exact .some (wraps value)

theorem bind {α : Type} {next : α → Option Data} (nexts : ∀ value, OrderedIfSome (next value)) (read : Option α) :
    OrderedIfSome (read.bind next) := by
  cases read with
  | none => exact .none
  | some value => exact nexts value

end OrderedIfSome

section Json

theorem Json.Number.ordered_toData? (n : Number) : OrderedIfSome n.toData? := by
  have float (read : Option Float) : OrderedIfSome (read.map .float) := .map (by exact fun _ => trivial) read
  unfold toData?
  split
  · dsimp only
    split
    · split
      · exact .some trivial
      · exact float _
    · split
      · exact .some trivial
      · exact float _
  · exact float _

theorem Json.ordered_toDataWithin? (depth : Nat) (document : Json) : OrderedIfSome (toDataWithin? depth document) := by
  unfold toDataWithin?
  cases document with
  | null => exact .some trivial
  | bool b => exact .some trivial
  | number n => exact n.ordered_toData?
  | string text => exact .map (by exact fun _ => trivial) text
  | array items =>
    cases depth with
    | zero => exact .none
    | succ depth => exact .map (by exact fun _ => trivial) _
  | object members =>
    cases depth with
    | zero => exact .none
    | succ depth => exact .map Data.ordered_ofEntries _

end Json

namespace Yaml

theorem ordered_integerData? (n : Int) : OrderedIfSome (integerData? n) := by
  unfold integerData?
  split
  · exact .some trivial
  · exact .none

theorem ordered_float? (s : List Char) : OrderedIfSome (float? s) := by
  unfold float?
  split
  split
  · exact .some trivial
  · split
    · exact .none
    · split
      · dsimp only
        split
        · exact .some trivial
        · exact .none
      · exact .none

theorem ordered_plainData? (s : String) : OrderedIfSome (plainData? s) := by
  unfold plainData?
  split
  · exact .some trivial
  · split
    · exact .some trivial
    · exact ordered_integerData? _
    · split
      · exact .some trivial
      · refine .some ?_
        cases read : float? s.toList with
        | none => trivial
        | some data => exact ordered_float? _ data read

theorem ordered_taggedData? (tag s : String) : OrderedIfSome (taggedData? tag s) := by
  unfold taggedData?
  split
  · exact .none
  · split
    · exact .map (by exact fun _ => trivial) _
    · split
      · exact .bind ordered_integerData? _
      · split
        · exact ordered_float? _
        · split
          · split
            · exact .some trivial
            · exact .none
          · exact .some trivial

theorem ordered_textData? (tag : Option String) (plain : Bool) (s : String) :
    OrderedIfSome (textData? tag plain s) := by
  cases tag with
  | some tag => exact ordered_taggedData? tag s
  | none =>
    cases plain with
    | false => exact .some trivial
    | true => exact ordered_plainData? s

namespace Document

def Orderly (read : Counting Data) : Prop := ∀ count data left, read count = some (data, left) → data.Ordered

theorem orderly_bind {α : Type} {first : Counting α} {next : α → Counting Data}
    (nexts : ∀ value, Orderly (next value)) : Orderly (first >>= next) := by
  intro count data left read
  obtain ⟨⟨value, middle⟩, -, read⟩ := Option.bind_eq_some_iff.mp read
  exact nexts value middle data left read

theorem orderly_failure : Orderly failure := nofun

theorem orderly_pure {data : Data} (ordered : data.Ordered) : Orderly (pure data) := by
  rintro count _ left ⟨⟩
  exact ordered

theorem orderly_lift {read : Option Data} (ordered : OrderedIfSome read) : Orderly (liftM read) := by
  intro count data left made
  obtain ⟨other, there, same⟩ := Option.bind_eq_some_iff.mp made
  obtain ⟨rfl, -⟩ := Prod.mk.inj (Option.some.inj same)
  exact ordered other there

theorem orderly_dataWithin (document : Document) (depth : Nat) (node : Node) :
    Orderly (document.dataWithin depth node) := by
  cases depth with
  | zero =>
    unfold dataWithin
    refine orderly_bind fun node => ?_
    split
    · exact orderly_lift (ordered_textData? _ _ _)
    · exact orderly_failure
  | succ depth =>
    unfold dataWithin
    refine orderly_bind fun node => ?_
    cases node with
    | text tag plain s => exact orderly_lift (ordered_textData? _ _ _)
    | sequence tag items =>
      dsimp only
      split
      · exact orderly_failure
      · exact orderly_bind fun values => orderly_pure trivial
    | mapping tag entries =>
      dsimp only
      split
      · exact orderly_failure
      · exact orderly_bind fun values => orderly_pure (Data.ordered_ofEntries values)
    | reference number => exact orderly_failure

theorem ordered_toData? (document : Document) : OrderedIfSome document.toData? := by
  intro data read
  change (document.dataWithin maxDepth document.root 0).map Prod.fst = some data at read
  obtain ⟨⟨other, left⟩, made, same⟩ := Option.map_eq_some_iff.mp read
  obtain rfl : other = data := same
  exact orderly_dataWithin document maxDepth document.root 0 other left made

end Document

end Yaml

namespace Toml

section Drafts

/-- One key of a table has a new draft. -/
def Inserts (entries entries' : Draft.Entries) : Prop :=
  ∃ key draft, entries' = Dict.insertEntry key draft entries

variable {change : Origin → Draft.Entries → Option Draft.Entries} {entries entries' : Draft.Entries}
  {path : List String}

theorem inserts_of_within? {byKey : Bool} {origin : Origin}
    (changes : ∀ origin inner inner', change origin inner = some inner' → Inserts inner inner')
    (changed : Draft.within? byKey change origin entries path = some entries') : Inserts entries entries' := by
  cases path with
  | nil => exact changes origin entries entries' changed
  | cons key rest =>
    unfold Draft.within? at changed
    split at changed
    · obtain ⟨inner, -, rfl⟩ := Option.map_eq_some_iff.mp changed
      exact ⟨_, _, rfl⟩
    · split at changed
      · cases changed
      · obtain ⟨inner, -, rfl⟩ := Option.map_eq_some_iff.mp changed
        exact ⟨_, _, rfl⟩
    · obtain ⟨inner, -, rfl⟩ := Option.map_eq_some_iff.mp changed
      exact ⟨_, _, rfl⟩
    · cases changed

theorem inserts_of_insert? {v : Toml} (changed : Draft.insert? path v entries = some entries') :
    Inserts entries entries' := by
  obtain ⟨key, -, changed⟩ := Option.bind_eq_some_iff.mp changed
  refine inserts_of_within? (fun origin inner inner' changed => ?_) changed
  split at changed
  · exact ⟨key, _, (Option.some.inj changed).symm⟩
  · cases changed

theorem inserts_of_openTable? (changed : Draft.openTable? path entries = some entries') :
    Inserts entries entries' := by
  obtain ⟨key, -, changed⟩ := Option.bind_eq_some_iff.mp changed
  refine inserts_of_within? (fun origin inner inner' changed => ?_) changed
  split at changed
  · exact ⟨key, _, (Option.some.inj changed).symm⟩
  · exact ⟨key, _, (Option.some.inj changed).symm⟩
  · cases changed

theorem inserts_of_addTable? (changed : Draft.addTable? path entries = some entries') : Inserts entries entries' := by
  obtain ⟨key, -, changed⟩ := Option.bind_eq_some_iff.mp changed
  refine inserts_of_within? (fun origin inner inner' changed => ?_) changed
  split at changed
  · exact ⟨key, _, (Option.some.inj changed).symm⟩
  · exact ⟨key, _, (Option.some.inj changed).symm⟩
  · cases changed

theorem inserts_of_add? {document document' : Draft.Document} {statement : Statement}
    (added : document.add? statement = some document') : Inserts document.entries document'.entries := by
  cases statement with
  | header path isList =>
    obtain ⟨entries, changed, rfl⟩ := Option.map_eq_some_iff.mp added
    cases isList with
    | false => exact inserts_of_openTable? changed
    | true => exact inserts_of_addTable? changed
  | entry path v =>
    obtain ⟨entries, changed, rfl⟩ := Option.map_eq_some_iff.mp added
    exact inserts_of_within? (fun _ _ _ => inserts_of_insert?) changed

/-- By induction on the statements, each of which changes one key. -/
theorem increasing_of_foldlM {statements : List Statement} {document document' : Draft.Document}
    (increasing : Increasing document.entries)
    (added : statements.foldlM Draft.Document.add? document = some document') : Increasing document'.entries := by
  induction statements generalizing document with
  | nil =>
    obtain rfl := Option.some.inj added
    exact increasing
  | cons statement statements ih =>
    rw [List.foldlM_cons] at added
    obtain ⟨middle, first, rest⟩ := Option.bind_eq_some_iff.mp added
    obtain ⟨key, draft, whole⟩ := inserts_of_add? first
    refine ih ?_ rest
    rw [whole]
    exact Dict.insertEntry_increasing key draft increasing

theorem keys_finishEntries (entries : Draft.Entries) :
    (Draft.finishEntries entries).map Prod.fst = entries.map Prod.fst := by
  induction entries with
  | nil => rfl
  | cons entry entries ih => rw [Draft.finishEntries, List.map_cons, ih, List.map_cons]

end Drafts

theorem ordered_of_ofText? {text : String} {value : Toml} {data : Data} (spelled : ofText? text = some value)
    (made : value.toData = .ok data) : data.Ordered := by
  obtain ⟨reading, -, spelled⟩ := Option.bind_eq_some_iff.mp spelled
  obtain ⟨statements, -, spelled⟩ := Option.bind_eq_some_iff.mp spelled
  obtain ⟨document, added, rfl⟩ := Option.map_eq_some_iff.mp spelled
  have none : Increasing (⟨[], []⟩ : Draft.Document).entries := .nil
  have increasing := increasing_of_foldlM none added
  obtain ⟨mirror, -⟩ := ((toData_settled _).eq_ok_iff fun _ _ => Mirrors.unique).mp made
  cases mirror with
  | table inner => exact Dict.increasing_congr inner.keys (Dict.increasing_congr (keys_finishEntries _) increasing)

end Toml

section Reading

variable {files : FileSystem} {path shown : Path} {format : Option String} {data : Data} {failure : Failure}

theorem ordered_of_read {known : DataFormat} {content : String} (read : known.read shown content = .ok data) :
    data.Ordered := by
  cases known with
  | text =>
    obtain rfl := Except.ok.inj read
    trivial
  | json =>
    unfold DataFormat.read at read
    dsimp only at read
    split at read
    · next made =>
      obtain rfl := Except.ok.inj read
      obtain ⟨document, -, made⟩ := Option.bind_eq_some_iff.mp made
      exact Json.ordered_toDataWithin? _ _ _ made
    · cases read
  | yaml =>
    unfold DataFormat.read at read
    dsimp only at read
    split at read
    · next made =>
      obtain rfl := Except.ok.inj read
      obtain ⟨document, -, made⟩ := Option.bind_eq_some_iff.mp made
      exact Yaml.Document.ordered_toData? _ _ made
    · cases read
  | toml =>
    unfold DataFormat.read at read
    dsimp only at read
    obtain ⟨value, spelled, made⟩ := Result.bind_eq_ok_iff.mp read
    rw [Result.mapError_eq_ok_iff] at made
    split at spelled
    · next found =>
      obtain rfl := Except.ok.inj spelled
      obtain ⟨found, -⟩ := Option.filter_eq_some_iff.mp found
      exact Toml.ordered_of_ofText? found made
    · cases spelled

inductive DataFlaw (files : FileSystem) (path shown : Path) (format : Option String) : Failure → Prop
  | unreadable (error : SystemError) (stopped : files.readText path = .error error) :
      DataFlaw files path shown format (.dataFile shown.text (.unreadable error))
  | unsupported (content : String) (text : files.readText path = .ok content)
      (unknown : DataFormat.ofName? (formatName path format) = none) :
      DataFlaw files path shown format (.unsupportedFormat (formatName path format))
  | malformed (content : String) (known : DataFormat) (failure : Failure) (text : files.readText path = .ok content)
      (named : DataFormat.ofName? (formatName path format) = some known)
      (stopped : known.read shown content = .error failure) : DataFlaw files path shown format failure

theorem DataFormat.read_json {document : Json} {content : String}
    (scanned : Json.tokens? content.toList = some document.tokens) (meant : document.toData? = some data) :
    DataFormat.json.read shown content = .ok data := by
  unfold DataFormat.read
  dsimp only
  rw [Json.ofText?_of_tokens scanned, Option.bind_some, meant]

theorem readDataFile_eq_ok_iff :
    readDataFile files path shown format = .ok data ↔ ∃ content known, files.readText path = .ok content ∧
      DataFormat.ofName? (formatName path format) = some known ∧ known.read shown content = .ok data := by
  unfold readDataFile
  simp only [Result.bind_eq_ok_iff, Result.mapError_eq_ok_iff]
  refine exists_congr fun content => ?_
  rw [exists_and_left]
  refine and_congr_right fun _ => ?_
  cases DataFormat.ofName? (formatName path format) with
  | none => exact iff_of_false nofun (fun ⟨_, same, _⟩ => nomatch same)
  | some known => simp only [Option.some.injEq, exists_eq_left']

theorem ordered_of_readDataFile (read : readDataFile files path shown format = .ok data) : data.Ordered := by
  obtain ⟨content, known, -, -, read⟩ := readDataFile_eq_ok_iff.mp read
  exact ordered_of_read read

theorem readDataFile_eq_error_iff :
    readDataFile files path shown format = .error failure ↔ DataFlaw files path shown format failure := by
  unfold readDataFile
  rw [Result.bind_eq_error_iff, Result.mapError_eq_error_iff]
  constructor
  · rintro (⟨error, stopped, rfl⟩ | ⟨content, text, failed⟩)
    · exact .unreadable error stopped
    · rw [Result.mapError_eq_ok_iff] at text
      dsimp only at failed
      split at failed
      · next known named => exact .malformed content known failure text named failed
      · next unknown =>
        obtain rfl := Except.error.inj failed
        exact .unsupported content text unknown
  · intro flaw
    cases flaw with
    | unreadable error stopped => exact .inl ⟨error, stopped, rfl⟩
    | unsupported content text unknown =>
      refine .inr ⟨content, Result.mapError_eq_ok_iff.mpr text, ?_⟩
      dsimp only
      rw [unknown]
      rfl
    | malformed content known _ text named stopped =>
      refine .inr ⟨content, Result.mapError_eq_ok_iff.mpr text, ?_⟩
      dsimp only
      rw [named]
      exact stopped

end Reading

end BlockTemplates
