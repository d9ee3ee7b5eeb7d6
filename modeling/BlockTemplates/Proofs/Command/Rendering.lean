import BlockTemplates.Proofs.Bundle.Text
import BlockTemplates.Proofs.Command.Failing
import BlockTemplates.Proofs.Files.Entry
import BlockTemplates.Proofs.Files.Route
import BlockTemplates.Proofs.Project.DataFile

/-! The data that a page is rendered with: the given data file laid over the configured ones, all of it or
none. Main statement: `CommandLine.run_render_context`. -/

namespace BlockTemplates

namespace Setting

def namespaces (setting : Setting) : Dict DataSource := (setting.config.getD {}).data

/-- A configured data file has been read as a value. -/
def Holds (setting : Setting) (files : FileSystem) (key : String) (value : Data) : Prop :=
  ∃ source, setting.namespaces.get? key = some source ∧
    readDataFile files (setting.root.join source.path) source.path source.format = .ok value

/-- The given data file has a value for a key. -/
def Overlays (setting : Setting) (files : FileSystem) (given : Option Path) (key : String) (value : Data) : Prop :=
  ∃ path data, given = some path ∧ loadDataFile files (setting.root.join path) = .ok data ∧
    data.get? key = some value

/-- The data to render with: a table with the keys of the given data file, and with those of the configured
ones that the given one does not have. -/
structure IsContext (setting : Setting) (files : FileSystem) (given : Option Path) (context : Data) : Prop where
  keyed : ∃ map : Dict Data, context = .table map.entries
  members : ∀ key value, context.get? key = some value ↔ setting.Overlays files given key value ∨
    (∀ other, ¬ setting.Overlays files given key other) ∧ setting.Holds files key value

/-- Each configured data file of some names can be read. -/
def CompleteFor (setting : Setting) (files : FileSystem) (among : String → Prop) : Prop :=
  ∀ name source, among name → setting.namespaces.get? name = some source → ∃ value, setting.Holds files name value

/-- Why there is no data to render with: the first configured data file that cannot be read, or else the
given one, or that this one holds no table. -/
inductive ContextFails (setting : Setting) (files : FileSystem) (given : Option Path) : Failure → Prop
  | configured (name : String) (source : DataSource) (failure : Failure)
      (held : setting.namespaces.get? name = some source) (earlier : setting.CompleteFor files (· < name))
      (flaw : DataFlaw files (setting.root.join source.path) source.path source.format failure) :
      ContextFails setting files given failure
  | given (path : Path) (failure : Failure) (named : given = some path)
      (complete : setting.CompleteFor files fun _ => True)
      (flaw : DataFlaw files (setting.root.join path) (setting.root.join path) none failure) :
      ContextFails setting files given failure
  | shapeless (path : Path) (data : Data) (named : given = some path)
      (complete : setting.CompleteFor files fun _ => True)
      (read : loadDataFile files (setting.root.join path) = .ok data) (other : ∀ entries, data ≠ .table entries) :
      ContextFails setting files given (.dataFile path.text .notATable)

variable {setting : Setting} {files : FileSystem} {given : Option Path} {context : Data} {failure : Failure}

section Configured

def readNamed (setting : Setting) (files : FileSystem) (entry : String × DataSource) : Result (String × Data) := do
  return (entry.1, ← readDataFile files (setting.root.join entry.2.path) entry.2.path entry.2.format)

def configured (setting : Setting) (files : FileSystem) : Result (List (String × Data)) :=
  setting.namespaces.entries.mapM (setting.readNamed files)

variable {values : List (String × Data)} {entry : String × DataSource} {pair : String × Data}

theorem readNamed_eq_ok_iff :
    setting.readNamed files entry = .ok pair ↔ entry.1 = pair.1 ∧
      readDataFile files (setting.root.join entry.2.path) entry.2.path entry.2.format = .ok pair.2 := by
  unfold readNamed
  rw [Result.bind_eq_ok_iff]
  constructor
  · rintro ⟨value, read, same⟩
    obtain rfl := Except.ok.inj same
    exact ⟨rfl, read⟩
  · rintro ⟨same, read⟩
    refine ⟨pair.2, read, ?_⟩
    rw [same]
    rfl

theorem readNamed_eq_error_iff :
    setting.readNamed files entry = .error failure ↔
      DataFlaw files (setting.root.join entry.2.path) entry.2.path entry.2.format failure := by
  unfold readNamed
  rw [Result.bind_eq_error_iff, readDataFile_eq_error_iff]
  exact or_iff_left fun ⟨_, _, same⟩ => nomatch same

theorem exists_readNamed_iff (inside : entry ∈ setting.namespaces.entries) :
    (∃ pair, setting.readNamed files entry = .ok pair) ↔ ∃ value, setting.Holds files entry.1 value := by
  have there := Dict.mem_entries_iff.mp inside
  constructor
  · rintro ⟨pair, read⟩
    exact ⟨pair.2, entry.2, there, (readNamed_eq_ok_iff.mp read).2⟩
  · rintro ⟨value, source, held, read⟩
    obtain rfl := Option.some.inj (there.symm.trans held)
    exact ⟨(entry.1, value), readNamed_eq_ok_iff.mpr ⟨rfl, read⟩⟩

theorem increasing_of_configured (made : setting.configured files = .ok values) : Increasing values := by
  have keys {entries : List (String × DataSource)}
      (each : List.Forall₂ (fun entry pair => setting.readNamed files entry = .ok pair) entries values) :
      values.map Prod.fst = entries.map Prod.fst := by
    clear made
    induction each with
    | nil => rfl
    | cons first _ ih => rw [List.map_cons, List.map_cons, ih, (readNamed_eq_ok_iff.mp first).1]
  exact Dict.increasing_congr (keys (Result.mapM_eq_ok_iff.mp made)) setting.namespaces.increasing

theorem lookup_of_configured (made : setting.configured files = .ok values) (key : String) (value : Data) :
    values.lookup key = some value ↔ setting.Holds files key value := by
  let map : Dict Data := ⟨values, increasing_of_configured made⟩
  have held : (key, value) ∈ values ↔ values.lookup key = some value := map.mem_entries_iff
  rw [← held, Result.mem_iff_of_mapM made]
  simp only [readNamed_eq_ok_iff]
  constructor
  · rintro ⟨⟨_, source⟩, inside, rfl, read⟩
    exact ⟨source, Dict.mem_entries_iff.mp inside, read⟩
  · rintro ⟨source, there, read⟩
    exact ⟨(key, source), Dict.mem_entries_iff.mpr there, rfl, read⟩

theorem configured_eq_error_iff :
    setting.configured files = .error failure ↔ ∃ name source, setting.namespaces.get? name = some source ∧
      setting.CompleteFor files (· < name) ∧
      DataFlaw files (setting.root.join source.path) source.path source.format failure := by
  unfold configured
  rw [Result.mapM_eq_error_iff]
  constructor
  · rintro ⟨before, ⟨name, source⟩, after, whole, earlier, failed⟩
    have inside : (name, source) ∈ setting.namespaces.entries := by
      rw [whole]
      exact List.mem_append_right _ List.mem_cons_self
    refine ⟨name, source, Dict.mem_entries_iff.mp inside, fun other source' below held => ?_,
      readNamed_eq_error_iff.mp failed⟩
    have there : (other, source') ∈ setting.namespaces.entries := Dict.mem_entries_iff.mpr held
    exact (exists_readNamed_iff there).mp (earlier _ ((Dict.mem_before_iff whole).mpr ⟨there, below⟩))
  · rintro ⟨name, source, held, earlier, flaw⟩
    have inside : (name, source) ∈ setting.namespaces.entries := Dict.mem_entries_iff.mpr held
    obtain ⟨before, after, whole⟩ := List.append_of_mem inside
    refine ⟨before, (name, source), after, whole, fun entry first => ?_, readNamed_eq_error_iff.mpr flaw⟩
    obtain ⟨inside, below⟩ := (Dict.mem_before_iff whole).mp first
    exact (exists_readNamed_iff inside).mpr (earlier _ entry.2 below (Dict.mem_entries_iff.mp inside))

theorem complete_iff_configured :
    (setting.CompleteFor files fun _ => True) ↔ ∃ values, setting.configured files = .ok values := by
  constructor
  · intro complete
    have steps : ∀ entry ∈ setting.namespaces.entries, ∃ pair, setting.readNamed files entry = .ok pair ∧ True := by
      intro entry inside
      obtain ⟨pair, read⟩ := (exists_readNamed_iff inside).mpr
        (complete entry.1 entry.2 trivial (Dict.mem_entries_iff.mp inside))
      exact ⟨pair, read, trivial⟩
    obtain ⟨values, made, -⟩ := Result.exists_mapM steps
    exact ⟨values, made⟩
  · rintro ⟨values, made⟩ name source - held
    have inside : (name, source) ∈ setting.namespaces.entries := Dict.mem_entries_iff.mpr held
    exact (exists_readNamed_iff inside).mp (Result.exists_of_mapM made _ inside)

end Configured

def layOver (setting : Setting) (files : FileSystem) (given : Option Path) (values : List (String × Data)) :
    Result Data :=
  match given with
  | none => .ok (Data.ofEntries values)
  | some path => do
    match ← loadDataFile files (setting.root.join path) with
    | .table entries => return Data.ofEntries (values ++ entries)
    | _ => throw (.dataFile path.text .notATable)

theorem renderData_eq (setting : Setting) (files : FileSystem) (given : Option Path) :
    setting.renderData files given = setting.configured files >>= setting.layOver files given := by
  unfold renderData configured namespaces layOver
  cases setting.config with
  | none => cases given <;> rfl
  | some config => cases given <;> rfl

section Context

variable {values entries : List (String × Data)}

theorem IsContext.unique {other : Data} (first : setting.IsContext files given context)
    (second : setting.IsContext files given other) : context = other := by
  obtain ⟨map, rfl⟩ := first.keyed
  obtain ⟨map', rfl⟩ := second.keyed
  have same : map = map' := Dict.ext_get? fun key =>
    Option.ext fun value => (first.members key value).trans (second.members key value).symm
  rw [same]

/-- The last value of a key counts, and that is the one of the given data file where it has one. -/
theorem isContext_ofEntries (increasing : Increasing values) (increasing' : Increasing entries)
    (held : ∀ key value, values.lookup key = some value ↔ setting.Holds files key value)
    (laid : ∀ key value, entries.lookup key = some value ↔ setting.Overlays files given key value) :
    setting.IsContext files given (Data.ofEntries (values ++ entries)) := by
  let lower : Dict Data := ⟨values, increasing⟩
  let upper : Dict Data := ⟨entries, increasing'⟩
  have both : Dict.ofList (values ++ entries) = lower.insertAll entries := by
    rw [← Dict.ofList_entries lower]
    exact List.foldl_append
  have reversed (key : String) : entries.reverse.lookup key = entries.lookup key := by
    rw [← Dict.get?_ofList]
    exact congrArg (Dict.get? · key) (Dict.ofList_entries upper)
  refine ⟨⟨_, rfl⟩, fun key value => ?_⟩
  change (Dict.ofList (values ++ entries)).get? key = some value ↔ _
  rw [both, Dict.get?_insertAll, reversed, Option.or_eq_some_iff, laid, Option.eq_none_iff_forall_ne_some]
  simp only [ne_eq, laid]
  exact or_congr_right (and_congr_right fun _ => held key value)

theorem layOver_of_table {path : Path} (read : loadDataFile files (setting.root.join path) = .ok (.table entries)) :
    setting.layOver files (some path) values = .ok (Data.ofEntries (values ++ entries)) := by
  unfold layOver
  dsimp only
  rw [read]
  rfl

theorem layOver_of_other {path : Path} {data : Data} (read : loadDataFile files (setting.root.join path) = .ok data)
    (other : ∀ entries, data ≠ .table entries) :
    setting.layOver files (some path) values = .error (.dataFile path.text .notATable) := by
  unfold layOver
  dsimp only
  rw [read]
  cases data with
  | table entries => exact absurd rfl (other entries)
  | _ => rfl

theorem layOver_of_error {path : Path} (stopped : loadDataFile files (setting.root.join path) = .error failure) :
    setting.layOver files (some path) values = .error failure := by
  unfold layOver
  dsimp only
  rw [stopped]
  rfl

theorem overlays_iff {path : Path} {data : Data} (read : loadDataFile files (setting.root.join path) = .ok data)
    (key : String) (value : Data) :
    setting.Overlays files (some path) key value ↔ data.get? key = some value := by
  unfold Overlays
  constructor
  · rintro ⟨path', data', same, read', held⟩
    obtain rfl := Option.some.inj same
    obtain rfl := Except.ok.inj (read.symm.trans read')
    exact held
  · exact fun held => ⟨path, data, rfl, read, held⟩

theorem layOver_cases (given : Option Path) (made : setting.configured files = .ok values) :
    (∃ failure, setting.ContextFails files given failure) ∨
      ∃ context, setting.layOver files given values = .ok context ∧ setting.IsContext files given context := by
  have complete := complete_iff_configured.mpr ⟨values, made⟩
  have increasing := increasing_of_configured made
  have held := lookup_of_configured made
  cases given with
  | none =>
    have whole : setting.IsContext files none (Data.ofEntries (values ++ [])) :=
      isContext_ofEntries increasing .nil held fun key value => by simp [Overlays]
    rw [List.append_nil] at whole
    exact .inr ⟨_, rfl, whole⟩
  | some path =>
    cases read : loadDataFile files (setting.root.join path) with
    | error failure =>
      exact .inl ⟨failure, .given path failure rfl complete (readDataFile_eq_error_iff.mp read)⟩
    | ok data =>
      by_cases tabular : ∃ entries, data = .table entries
      · obtain ⟨entries, rfl⟩ := tabular
        exact .inr ⟨_, layOver_of_table read, isContext_ofEntries increasing (ordered_of_readDataFile read) held
          fun key value => (overlays_iff read key value).symm⟩
      · have other : ∀ entries, data ≠ .table entries := fun entries same => tabular ⟨entries, same⟩
        exact .inl ⟨_, .shapeless path data rfl complete read other⟩

end Context

theorem renderData_of_fails (fails : setting.ContextFails files given failure) :
    setting.renderData files given = .error failure := by
  rw [renderData_eq, Result.bind_eq_error_iff]
  cases fails with
  | configured name source _ held earlier flaw =>
    exact .inl (configured_eq_error_iff.mpr ⟨name, source, held, earlier, flaw⟩)
  | given path _ named complete flaw =>
    obtain ⟨values, made⟩ := complete_iff_configured.mp complete
    subst named
    exact .inr ⟨values, made, layOver_of_error (readDataFile_eq_error_iff.mpr flaw)⟩
  | shapeless path data named complete read other =>
    obtain ⟨values, made⟩ := complete_iff_configured.mp complete
    subst named
    exact .inr ⟨values, made, layOver_of_other read other⟩

theorem renderData_cases (setting : Setting) (files : FileSystem) (given : Option Path) :
    (∃ failure, setting.ContextFails files given failure) ∨
      ∃ context, setting.renderData files given = .ok context ∧ setting.IsContext files given context := by
  rw [renderData_eq]
  cases made : setting.configured files with
  | error failure =>
    obtain ⟨name, source, held, earlier, flaw⟩ := configured_eq_error_iff.mp made
    exact .inl ⟨failure, .configured name source failure held earlier flaw⟩
  | ok values => exact layOver_cases given made

theorem not_fails_of_renderData (made : setting.renderData files given = .ok context) (failure : Failure) :
    ¬ setting.ContextFails files given failure := by
  intro fails
  rw [renderData_of_fails fails] at made
  cases made

theorem isContext_of_renderData (made : setting.renderData files given = .ok context) :
    setting.IsContext files given context := by
  rcases renderData_cases setting files given with ⟨failure, fails⟩ | ⟨other, made', whole⟩
  · exact absurd fails (not_fails_of_renderData made failure)
  · obtain rfl := Except.ok.inj (made.symm.trans made')
    exact whole

end Setting

namespace CommandLine

variable {line : CommandLine} {files : FileSystem} {color : Bool} {name : String}
  {templates bundle data : Option Path} {minified : Bool} {config : Option Config} {set : TemplateSet}

theorem run_render_eq (given : line.command = some (.render name templates bundle data minified))
    (loaded : Config.load files (line.rootFolder files) = .ok config)
    (ready : (line.setting files config color).templateSet files templates bundle minified = .ok set) :
    line.run files color = Setting.run.printed files
      ((line.setting files config color).renderData files data >>= fun context => (set.render name context).result) := by
  rcases run_cases given files color with ⟨failure, stopped, -⟩ | ⟨other, found, same⟩
  · rw [loaded] at stopped
    cases stopped
  · rw [loaded] at found
    obtain rfl := Except.ok.inj found
    rw [same, Setting.run, Setting.page, ready]
    rfl

/-- Once its templates are ready, a page is rendered with the given data file laid over the configured ones,
of which a key takes one value whole. If one of these files fails, no template is rendered: the failure is
that of the first configured file in the order of the names, then that of the given file. -/
theorem run_render_context (given : line.command = some (.render name templates bundle data minified))
    (loaded : Config.load files (line.rootFolder files) = .ok config)
    (ready : (line.setting files config color).templateSet files templates bundle minified = .ok set) :
    let setting := line.setting files config color
    (∀ failure, setting.ContextFails files data failure →
        line.run files color = ⟨2, "", [.failure failure], files⟩) ∧
      ((∀ failure, ¬ setting.ContextFails files data failure) →
        (∃ context, setting.IsContext files data context) ∧
          ∀ context, setting.IsContext files data context →
            line.run files color = Setting.run.printed files (set.render name context).result) := by
  have run := run_render_eq given loaded ready
  refine ⟨fun failure fails => ?_, fun sound => ?_⟩
  · rw [run, Setting.renderData_of_fails fails]
    rfl
  · rcases Setting.renderData_cases (line.setting files config color) files data with ⟨failure, fails⟩ |
      ⟨context, made, whole⟩
    · exact absurd fails (sound failure)
    · refine ⟨⟨context, whole⟩, fun other whole' => ?_⟩
      rw [run, made, whole'.unique whole]
      rfl

end CommandLine

section Labelled

def labelBundle : Bundle := .new false (.ofList [("page", ⟨["", " ", ""], ["banner", "site"]⟩)])

def labelText : String := "[data]\nsite = \"site.json\"\nbanner = \"banner.txt\"\n"

def labelConfig : Config :=
  { data := .ofList [("banner", ⟨⟨"banner.txt"⟩, none⟩), ("site", ⟨⟨"site.json"⟩, none⟩)] }

def labelEntries (page : String) : List (String × Node) :=
  [("bundle.json", .file (some labelBundle.toText)), ("forge.toml", .file (some labelText)),
    ("page.json", .file (some page)), ("site.json", .file (some "[\"ours\"]"))]

/-- A project with two configured data files, of which the banner may be missing. -/
def labelledSite (banner : List (String × Node)) (page : String) : FileSystem :=
  ⟨.folder (banner ++ labelEntries page), []⟩

def labelLine : CommandLine :=
  ⟨some (.render "page" none (some ⟨"bundle.json"⟩) (some ⟨"page.json"⟩) false), none, false, false⟩

def labelSetting : Setting := ⟨⟨"/"⟩, some labelConfig, false⟩

def labelSet : TemplateSet := ⟨.plain, false, labelBundle.templates⟩

def labelPage : Dict Data := .ofList [("site", .string "mine"), ("extra", .int 1)]

def labelContext : Data :=
  Data.ofEntries ([("banner", .string "Hi"), ("site", .list [.string "ours"])] ++ labelPage.entries)

variable {banner : List (String × Node)} {page name content : String}

theorem resolve_labelledSite : (labelledSite banner page).resolve ⟨"/"⟩ = .ok [] :=
  FileSystem.resolve_of_arrive rfl

theorem readText_labelledSite (proper : FileSystem.ProperName name) (free : banner.lookup name = none)
    (found : (labelEntries page).lookup name = some (.file (some content))) :
    (labelledSite banner page).readText (Path.join ⟨"/"⟩ ⟨name⟩) = .ok content :=
  FileSystem.readText_join resolve_labelledSite rfl proper (by rw [List.lookup_append, free]; exact found)

theorem load_labelledSite (free : banner.lookup "forge.toml" = none) :
    Config.load (labelledSite banner page) ⟨"/"⟩ = .ok (some labelConfig) := by
  have proper : FileSystem.ProperName "forge.toml" := by decide +kernel
  have read : Config.ofText labelText = .ok labelConfig := by decide +kernel
  have there : (banner ++ labelEntries page).lookup "forge.toml" = some (.file (some labelText)) := by
    rw [List.lookup_append, free]
    rfl
  have stat := FileSystem.stat_join resolve_labelledSite rfl proper there (Node.file_ne_link _)
  have first : Config.find? (labelledSite banner page) ⟨"/"⟩ = some (Path.join ⟨"/"⟩ ⟨"forge.toml"⟩) := by
    unfold Config.find? Config.candidates FileSystem.isFile
    rw [List.map_cons, List.find?_cons, stat]
  unfold Config.load
  rw [first]
  dsimp only
  rw [readText_labelledSite proper free rfl, Except.mapError]
  simp only [bind, Except.bind, read]
  rfl

theorem rootFolder_labelLine : labelLine.rootFolder (labelledSite banner page) = ⟨"/"⟩ := by
  change (⟨"/" ++ "/".intercalate []⟩ : Path) = ⟨"/"⟩
  decide +kernel

theorem setting_labelLine : labelLine.setting (labelledSite banner page) (some labelConfig) false = labelSetting := by
  unfold CommandLine.setting
  rw [rootFolder_labelLine]
  rfl

theorem templateSet_labelledSite (free : banner.lookup "bundle.json" = none) :
    labelSetting.templateSet (labelledSite banner page) none (some ⟨"bundle.json"⟩) false = .ok labelSet := by
  have text : (labelledSite banner page).readText (Path.join ⟨"/"⟩ ⟨"bundle.json"⟩) = .ok labelBundle.toText :=
    readText_labelledSite (by decide +kernel) free rfl
  have valid : labelBundle.templates.entries.forM (fun entry => entry.2.validate entry.1) = .ok () := by
    decide +kernel
  unfold Setting.templateSet
  dsimp only
  rw [show labelSetting.root = ⟨"/"⟩ from rfl, Bundle.read_of_readText rfl text]
  unfold TemplateSet.ofBundle
  simp only [bind, Except.bind, valid]
  rfl

theorem render_labelSet : (labelSet.render "page" labelContext).result = .ok "Hi mine" := by decide +kernel

def bannerFile : List (String × Node) := [("banner.txt", .file (some "Hi"))]

def pageText : String := "\x7b\"site\": \"mine\", \"extra\": 1\x7d"

def namedSite : FileSystem := labelledSite bannerFile pageText

theorem entries_labelSetting :
    labelSetting.namespaces.entries = [("banner", ⟨⟨"banner.txt"⟩, none⟩), ("site", ⟨⟨"site.json"⟩, none⟩)] := by
  decide +kernel

theorem configured_namedSite :
    labelSetting.configured namedSite = .ok [("banner", .string "Hi"), ("site", .list [.string "ours"])] := by
  have banner : namedSite.readText (Path.join ⟨"/"⟩ ⟨"banner.txt"⟩) = .ok "Hi" :=
    FileSystem.readText_join resolve_labelledSite rfl (by decide +kernel) rfl
  have site : namedSite.readText (Path.join ⟨"/"⟩ ⟨"site.json"⟩) = .ok "[\"ours\"]" :=
    readText_labelledSite (by decide +kernel) rfl rfl
  have scanned : Json.tokens? "[\"ours\"]".toList = some (Json.array [.string (some "ours")]).tokens := by
    decide +kernel
  unfold Setting.configured
  rw [entries_labelSetting, Result.mapM_eq_ok_iff]
  refine .cons (Setting.readNamed_eq_ok_iff.mpr ⟨rfl, ?_⟩) (.cons (Setting.readNamed_eq_ok_iff.mpr ⟨rfl, ?_⟩) .nil)
  · exact readDataFile_eq_ok_iff.mpr ⟨_, .text, banner, by decide +kernel, rfl⟩
  · exact readDataFile_eq_ok_iff.mpr ⟨_, .json, site, by decide +kernel, DataFormat.read_json scanned rfl⟩

theorem renderData_namedSite : labelSetting.renderData namedSite (some ⟨"page.json"⟩) = .ok labelContext := by
  have page : namedSite.readText (Path.join ⟨"/"⟩ ⟨"page.json"⟩) = .ok pageText :=
    readText_labelledSite (by decide +kernel) rfl rfl
  have scanned : Json.tokens? pageText.toList = some (Json.object
      [(some "site", .string (some "mine")), (some "extra", .number ⟨false, ['1'], none, none⟩)]).tokens := by
    decide +kernel
  have read : loadDataFile namedSite (labelSetting.root.join ⟨"page.json"⟩) = .ok (.table labelPage.entries) :=
    readDataFile_eq_ok_iff.mpr ⟨_, .json, page, by decide +kernel, DataFormat.read_json scanned rfl⟩
  rw [Setting.renderData_eq, configured_namedSite]
  exact Setting.layOver_of_table read

theorem fails_bareSite : labelSetting.ContextFails (labelledSite [] "[]") (some ⟨"page.json"⟩)
    (.dataFile "banner.txt" (.unreadable .notFound)) := by
  have missing : (labelledSite [] "[]").readText (Path.join ⟨"/"⟩ ⟨"banner.txt"⟩) = .error .notFound :=
    FileSystem.readText_join_absent resolve_labelledSite rfl (by decide +kernel) rfl
  refine .configured "banner" ⟨⟨"banner.txt"⟩, none⟩ _ (by decide +kernel) ?_ (.unreadable .notFound missing)
  intro name source before held
  have inside : (name, source) ∈ labelSetting.namespaces.entries := Dict.mem_entries_iff.mpr held
  rw [entries_labelSetting] at inside
  rcases List.mem_cons.mp inside with same | later
  · obtain ⟨rfl, rfl⟩ := Prod.mk.inj same
    exact absurd before (by decide +kernel)
  · obtain ⟨rfl, rfl⟩ := Prod.mk.inj (List.mem_singleton.mp later)
    exact absurd before (by decide +kernel)

theorem run_render_context_labelled :
    labelLine.run namedSite false = ⟨0, "Hi mine", [], namedSite⟩ ∧
      labelLine.run (labelledSite [] "[]") false =
        ⟨2, "", [.failure (.dataFile "banner.txt" (.unreadable .notFound))], labelledSite [] "[]"⟩ := by
  have loaded (banner : List (String × Node)) (page : String) (free : banner.lookup "forge.toml" = none) :
      Config.load (labelledSite banner page) (labelLine.rootFolder (labelledSite banner page)) =
        .ok (some labelConfig) := by
    rw [rootFolder_labelLine]
    exact load_labelledSite free
  have ready (banner : List (String × Node)) (page : String) (free : banner.lookup "bundle.json" = none) :
      (labelLine.setting (labelledSite banner page) (some labelConfig) false).templateSet (labelledSite banner page)
        none (some ⟨"bundle.json"⟩) false = .ok labelSet := by
    rw [setting_labelLine]
    exact templateSet_labelledSite free
  constructor
  · obtain ⟨-, renders⟩ := CommandLine.run_render_context rfl (loaded bannerFile pageText rfl)
      (ready bannerFile pageText rfl)
    have made := renderData_namedSite
    rw [setting_labelLine] at renders
    obtain ⟨-, run⟩ := renders (Setting.not_fails_of_renderData made)
    have same := run labelContext (Setting.isContext_of_renderData made)
    rwa [render_labelSet] at same
  · obtain ⟨fails, -⟩ := CommandLine.run_render_context rfl (loaded [] "[]" rfl) (ready [] "[]" rfl)
    rw [setting_labelLine] at fails
    exact fails _ fails_bareSite

end Labelled

end BlockTemplates
