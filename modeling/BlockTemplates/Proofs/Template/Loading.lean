import BlockTemplates.Project.Folder
import BlockTemplates.Proofs.Bundle.Text
import BlockTemplates.Proofs.Files.Flat
import BlockTemplates.Proofs.Files.Route
import BlockTemplates.Proofs.Template.Validation

/-! Ways to load templates. A folder is checked file by file, sources all together once each of them
has been split, and a bundle when it is read; all of them lead to the same set or to none. Main
statement: `loads_agree`. -/

namespace BlockTemplates

/-- The template files of a folder with their texts, in the order of their names. -/
def folderSources (files : FileSystem) (options : BuildOptions) (folder : Path) :
    Result (List (String × String)) := do
  let found ← discover files options folder
  found.mapM (fun file => do
    let source ← (files.readText file.path).mapError .io
    return (file.name, source))

variable {files : FileSystem} {options : BuildOptions} {folder : Path} {sources : List (String × String)}

/-- Files of one name have one text, so it does not matter which of them is kept. -/
theorem oneValued_folderSources (listed : folderSources files options folder = .ok sources) :
    Dict.OneValued sources := by
  obtain ⟨found, discovered, made⟩ := Result.bind_eq_ok_iff.mp listed
  have read {source : String × String} (member : source ∈ sources) :
      ∃ file ∈ found, file.name = source.1 ∧ files.readText file.path = .ok source.2 := by
    obtain ⟨file, inside, same⟩ := (Result.mem_iff_of_mapM made).mp member
    obtain ⟨text, content, last⟩ := Result.bind_eq_ok_iff.mp same
    obtain rfl := Except.ok.inj last
    exact ⟨file, inside, rfl, Result.mapError_eq_ok_iff.mp content⟩
  intro source member other member' sameName
  obtain ⟨file, inside, name, text⟩ := read member
  obtain ⟨file', inside', name', text'⟩ := read member'
  have alike : file.name = file'.name := by rw [name, name', sameName]
  exact sameText_of_discover discovered inside inside' alike text text'

def Template.entryOf (minified : Bool) (source : String × String) : Result (String × Template) := do
  return (source.1, ← Template.ofSource source.1 source.2 minified)

def Template.checkedEntryOf (minified : Bool) (source : String × String) : Result (String × Template) := do
  let template ← Template.ofSource source.1 source.2 minified
  template.validate source.1
  return (source.1, template)

theorem Template.checkedEntryOf_eq_ok_iff {minified : Bool} {source : String × String}
    {entry : String × Template} :
    checkedEntryOf minified source = .ok entry ↔
      entryOf minified source = .ok entry ∧ entry.2.validate entry.1 = .ok () := by
  constructor
  · intro made
    obtain ⟨template, compiled, rest⟩ := Result.bind_eq_ok_iff.mp made
    obtain ⟨_, valid, last⟩ := Result.bind_eq_ok_iff.mp rest
    obtain rfl := Except.ok.inj last
    exact ⟨Result.bind_eq_ok_iff.mpr ⟨template, compiled, rfl⟩, valid⟩
  · rintro ⟨made, valid⟩
    obtain ⟨template, compiled, last⟩ := Result.bind_eq_ok_iff.mp made
    obtain rfl := Except.ok.inj last
    exact Result.bind_eq_ok_iff.mpr ⟨template, compiled, Result.bind_eq_ok_iff.mpr ⟨(), valid, rfl⟩⟩

theorem Template.mapM_checkedEntryOf {minified : Bool} {entries : List (String × Template)} :
    sources.mapM (checkedEntryOf minified) = .ok entries ↔
      sources.mapM (entryOf minified) = .ok entries ∧
        ∀ entry ∈ entries, entry.2.validate entry.1 = .ok () := by
  rw [Result.mapM_eq_ok_iff, Result.mapM_eq_ok_iff, ← Result.forall₂_and_right]
  simp only [checkedEntryOf_eq_ok_iff]

theorem Template.oneValued_entries {minified : Bool} (single : Dict.OneValued sources)
    {entries : List (String × Template)} (made : sources.mapM (entryOf minified) = .ok entries) :
    Dict.OneValued entries := by
  have compiled {entry : String × Template} (member : entry ∈ entries) :
      ∃ source ∈ sources, entry.1 = source.1 ∧
        Template.ofSource source.1 source.2 minified = .ok entry.2 := by
    obtain ⟨source, inside, same⟩ := (Result.mem_iff_of_mapM made).mp member
    obtain ⟨template, compiled, last⟩ := Result.bind_eq_ok_iff.mp same
    obtain rfl := Except.ok.inj last
    exact ⟨source, inside, rfl, compiled⟩
  intro entry member other member' sameName
  obtain ⟨source, inside, name, template⟩ := compiled member
  obtain ⟨source', inside', name', template'⟩ := compiled member'
  have alike : source.1 = source'.1 := by rw [← name, ← name', sameName]
  rw [alike, single source inside source' inside' alike, template'] at template
  exact (Except.ok.inj template).symm

/-- When the files of a folder can be read, building its bundle is checking their texts one by one. -/
theorem Bundle.ofFolder_eq (listed : folderSources files options folder = .ok sources) :
    Bundle.ofFolder files options folder = do
      let entries ← sources.mapM (Template.checkedEntryOf options.minified)
      return .new options.minified (.ofList entries) := by
  obtain ⟨found, discovered, made⟩ := Result.bind_eq_ok_iff.mp listed
  unfold Bundle.ofFolder
  rw [discovered, ← Result.mapM_bind_eq (Template.checkedEntryOf options.minified) made]
  simp only [bind_assoc, pure_bind]
  rfl

namespace TemplateSet

theorem ofSources_eq_ok_iff {environment : Expr.Environment} {minified : Bool} {set : TemplateSet} :
    ofSources environment minified sources = .ok set ↔
      ∃ entries, sources.mapM (Template.entryOf minified) = .ok entries ∧
        (∀ entry ∈ (Dict.ofList entries).entries, entry.2.validate entry.1 = .ok ()) ∧
          set = ⟨environment, minified, .ofList entries⟩ := by
  unfold ofSources
  rw [Result.bind_eq_ok_iff]
  constructor
  · rintro ⟨bundle, built, loaded⟩
    obtain ⟨entries, made, same⟩ := Result.bind_eq_ok_iff.mp built
    obtain rfl := Except.ok.inj same
    exact ⟨entries, made, ofBundle_eq_ok_iff.mp loaded⟩
  · rintro ⟨entries, made, loaded⟩
    exact ⟨.new minified (.ofList entries), Result.bind_eq_ok_iff.mpr ⟨entries, made, rfl⟩,
      ofBundle_eq_ok_iff.mpr loaded⟩

theorem ofFolder_eq_ok_iff {environment : Expr.Environment} {set : TemplateSet}
    (listed : folderSources files options folder = .ok sources) :
    ofFolder environment files options folder = .ok set ↔
      ∃ entries, sources.mapM (Template.entryOf options.minified) = .ok entries ∧
        (∀ entry ∈ entries, entry.2.validate entry.1 = .ok ()) ∧
          set = ⟨environment, options.minified, .ofList entries⟩ := by
  unfold ofFolder
  rw [Bundle.ofFolder_eq listed, Result.bind_eq_ok_iff]
  constructor
  · rintro ⟨bundle, built, loaded⟩
    obtain ⟨entries, made, same⟩ := Result.bind_eq_ok_iff.mp built
    obtain rfl := Except.ok.inj same
    obtain ⟨compiled, valid⟩ := Template.mapM_checkedEntryOf.mp made
    exact ⟨entries, compiled, valid, (ofBundle_eq_ok_iff.mp loaded).2⟩
  · rintro ⟨entries, compiled, valid, same⟩
    have made := Template.mapM_checkedEntryOf.mpr ⟨compiled, valid⟩
    have kept : ∀ entry ∈ (Dict.ofList entries).entries, entry.2.validate entry.1 = .ok () :=
      fun entry member => valid entry (Dict.mem_of_mem_ofList member)
    exact ⟨.new options.minified (.ofList entries), Result.bind_eq_ok_iff.mpr ⟨entries, made, rfl⟩,
      ofBundle_eq_ok_iff.mpr ⟨kept, same⟩⟩

/-- A folder and its sources make the same set, or both make none. -/
theorem ofFolder_eq_ok_iff_ofSources {environment : Expr.Environment} {set : TemplateSet}
    (listed : folderSources files options folder = .ok sources) :
    ofFolder environment files options folder = .ok set ↔
      ofSources environment options.minified sources = .ok set := by
  rw [ofFolder_eq_ok_iff listed, ofSources_eq_ok_iff]
  apply exists_congr
  intro entries
  apply and_congr_right
  intro made
  have single := Template.oneValued_entries (oneValued_folderSources listed) made
  apply and_congr_left
  intro _
  constructor
  · exact fun valid entry member => valid entry (Dict.mem_of_mem_ofList member)
  · exact fun valid entry member => valid entry (Dict.mem_entries_ofList single member)

/-- The templates of a folder, made ready from the text of their bundle. -/
def ofFolderText (environment : Expr.Environment) (files : FileSystem) (options : BuildOptions)
    (folder : Path) : Result TemplateSet := do
  let bundle ← Bundle.ofFolder files options folder
  ofBundle environment (← Bundle.ofText bundle.toText)

theorem ofFolderText_eq (environment : Expr.Environment) (files : FileSystem) (options : BuildOptions)
    (folder : Path) :
    ofFolderText environment files options folder = ofFolder environment files options folder := by
  unfold ofFolderText ofFolder
  cases built : Bundle.ofFolder files options folder with
  | error failure => rfl
  | ok bundle =>
    obtain ⟨found, _, rest⟩ := Result.bind_eq_ok_iff.mp built
    obtain ⟨entries, _, same⟩ := Result.bind_eq_ok_iff.mp rest
    have current : bundle.formatVersion = Bundle.currentVersion := by
      rw [← Except.ok.inj same]
      rfl
    simp only [bind, Except.bind, Bundle.ofText_toText_current current]

def reload (set : TemplateSet) : Result TemplateSet := do
  ofBundle set.environment (← Bundle.ofText set.toBundle.toText)

/-- The set made ready again so many times in a row. -/
def reloaded (set : TemplateSet) : Nat → Result TemplateSet
  | 0 => .ok set
  | times + 1 => do (← set.reloaded times).reload

theorem reload_of_ofBundle {environment : Expr.Environment} {bundle : Bundle} {set : TemplateSet}
    (loaded : ofBundle environment bundle = .ok set) : set.reload = .ok set := by
  obtain ⟨valid, rfl⟩ := ofBundle_eq_ok_iff.mp loaded
  have current : (toBundle ⟨environment, bundle.minified, bundle.templates⟩).formatVersion =
      Bundle.currentVersion := rfl
  unfold reload
  rw [Bundle.ofText_toText_current current]
  exact ofBundle_eq_ok_iff.mpr ⟨valid, rfl⟩

theorem reloaded_of_ofBundle {environment : Expr.Environment} {bundle : Bundle} {set : TemplateSet}
    (loaded : ofBundle environment bundle = .ok set) (times : Nat) : set.reloaded times = .ok set := by
  induction times with
  | zero => rfl
  | succ times ih =>
    unfold reloaded
    rw [ih]
    exact reload_of_ofBundle loaded

/-- When the files of a folder can be read, the folder, their texts and the text of the bundle of the
folder all make the same set, or none of them makes any. A set that has been made is made again from
its own text any number of times. -/
theorem loads_agree (environment : Expr.Environment) :
    (∀ (files : FileSystem) (options : BuildOptions) (folder : Path) (sources : List (String × String)),
      folderSources files options folder = .ok sources →
        (ofFolder environment files options folder).toOption =
            (ofSources environment options.minified sources).toOption ∧
          (ofFolderText environment files options folder).toOption =
            (ofSources environment options.minified sources).toOption) ∧
      ∀ (bundle : Bundle) (set : TemplateSet), ofBundle environment bundle = .ok set →
        ∀ times, set.reloaded times = .ok set := by
  constructor
  · intro files options folder sources listed
    have same : (ofFolder environment files options folder).toOption =
        (ofSources environment options.minified sources).toOption := by
      apply Option.ext
      intro set
      rw [Result.toOption_eq_some_iff, Result.toOption_eq_some_iff]
      exact ofFolder_eq_ok_iff_ofSources listed
    rw [ofFolderText_eq]
    exact ⟨same, same⟩
  · intro bundle set loaded times
    exact reloaded_of_ofBundle loaded times

section SharedPages

def sharedPages : FileSystem :=
  ⟨.folder [("pages", .folder [("base.tmpl.html", .file (some "<p>$\x7b 1 \x7d</p>")),
    ("home.tmpl.html", .link ⟨"base.tmpl.html"⟩)])], []⟩

def sharedSources : List (String × String) :=
  [("base", "<p>$\x7b 1 \x7d</p>"), ("home", "<p>$\x7b 1 \x7d</p>")]

def sharedSet : TemplateSet :=
  ⟨.plain, false, .ofList [("base", ⟨["<p>", "</p>"], ["1"]⟩), ("home", ⟨["<p>", "</p>"], ["1"]⟩)]⟩

theorem discover_sharedPages : discover sharedPages {} ⟨"pages"⟩ =
    .ok [⟨"base", Path.join ⟨"pages"⟩ ⟨"base.tmpl.html"⟩⟩, ⟨"home", Path.join ⟨"pages"⟩ ⟨"home.tmpl.html"⟩⟩] := by
  have flat : Flat sharedPages ⟨"pages"⟩ ["pages"]
      [("base.tmpl.html", .file (some "<p>$\x7b 1 \x7d</p>")), ("home.tmpl.html", .link ⟨"base.tmpl.html"⟩)] := {
    led := FileSystem.resolve_of_arrive rfl
    held := rfl
    apart := by
      simp only [FileSystem.isFolder_eq_arrive]
      decide }
  exact discover_flat flat rfl (by decide) (List.pairwise_pair.mpr (by decide))

theorem folderSources_sharedPages : folderSources sharedPages {} ⟨"pages"⟩ = .ok sharedSources := by
  have base : sharedPages.resolve (Path.join ⟨"pages"⟩ ⟨"base.tmpl.html"⟩) = .ok ["pages", "base.tmpl.html"] :=
    FileSystem.resolve_of_arrive rfl
  have home : sharedPages.resolve (Path.join ⟨"pages"⟩ ⟨"home.tmpl.html"⟩) = .ok ["pages", "base.tmpl.html"] :=
    FileSystem.resolve_of_arrive rfl
  unfold folderSources
  rw [discover_sharedPages]
  change List.mapM _ _ = _
  rw [List.mapM_cons, List.mapM_cons, FileSystem.readText_of_held base rfl, FileSystem.readText_of_held home rfl]
  rfl

theorem loads_agree_sharedPages :
    folderSources sharedPages {} ⟨"pages"⟩ = .ok sharedSources ∧
      ofSources .plain false sharedSources = .ok sharedSet ∧
      (ofFolder .plain sharedPages {} ⟨"pages"⟩).toOption = some sharedSet ∧
      (ofFolderText .plain sharedPages {} ⟨"pages"⟩).toOption = some sharedSet ∧
      sharedSet.reloaded 3 = .ok sharedSet := by
  have made : ofSources .plain false sharedSources = .ok sharedSet := by with_unfolding_all rfl
  have loaded : ofBundle .plain sharedSet.toBundle = .ok sharedSet := by with_unfolding_all rfl
  obtain ⟨folder, text⟩ :=
    (loads_agree .plain).1 sharedPages {} ⟨"pages"⟩ sharedSources folderSources_sharedPages
  have again := (loads_agree .plain).2 sharedSet.toBundle sharedSet loaded 3
  refine ⟨folderSources_sharedPages, made, ?_, ?_, again⟩
  · exact folder.trans (congrArg _ made)
  · exact text.trans (congrArg _ made)

end SharedPages

end TemplateSet

end BlockTemplates
