import BlockTemplates.Proofs.Bundle.Text

/-! Texts of bundles of other versions. A text is read in the layout of the current version before
its version is looked at, so that a text in another layout is malformed whatever version it states.
Main statement: `ofText_otherVersion`. -/

namespace BlockTemplates

namespace Bundle

/-! ### The fields of a record -/

def valuesOf (name : String) (members : List (Json.Text × Json)) : List Json :=
  (members.filter fun member => member.1 = some name).map Prod.snd

def Named (members : List (Json.Text × Json)) : Prop := ∀ member ∈ members, member.1.isSome

def asMembers (fields : List (String × Json)) : List (Json.Text × Json) :=
  fields.map fun field => (some field.1, field.2)

theorem mapM_eq_some_iff {α β : Type} {read : α → Option β} {items : List α} {values : List β} :
    items.mapM read = some values ↔ List.Forall₂ (fun item value => read item = some value) items values := by
  induction items generalizing values with
  | nil => cases values <;> simp
  | cons item items ih =>
    rw [List.mapM_cons, List.forall₂_cons_left_iff]
    simp [Option.bind_eq_some_iff, ih, @eq_comm _ values]

theorem exists_mapM_iff {α β : Type} {read : α → Option β} {items : List α} :
    (∃ values, items.mapM read = some values) ↔ ∀ item ∈ items, ∃ value, read item = some value := by
  induction items with
  | nil => simp
  | cons item items ih =>
    rw [List.forall_mem_cons, ← ih]
    simp [List.mapM_cons, Option.bind_eq_some_iff]

theorem named_iff {members : List (Json.Text × Json)} :
    Named members ↔ ∃ fields, members = asMembers fields := by
  constructor
  · intro texts
    induction members with
    | nil => exact ⟨[], rfl⟩
    | cons member members ih =>
      obtain ⟨key, value⟩ := member
      obtain ⟨first, others⟩ := List.forall_mem_cons.mp texts
      obtain ⟨name, rfl⟩ := Option.isSome_iff_exists.mp first
      obtain ⟨fields, rfl⟩ := ih others
      exact ⟨(name, value) :: fields, rfl⟩
  · rintro ⟨fields, rfl⟩ member found
    obtain ⟨field, -, rfl⟩ := List.mem_map.mp found
    rfl

theorem mapM_named {members : List (Json.Text × Json)} {fields : List (String × Json)} :
    members.mapM (fun member => member.1.map (·, member.2)) = some fields ↔ members = asMembers fields := by
  rw [mapM_eq_some_iff, asMembers, ← List.forall₂_eq_eq_eq, List.forall₂_map_right_iff]
  constructor
  · intro read
    refine read.imp fun member field same => ?_
    obtain ⟨name, text, rfl⟩ := Option.map_eq_some_iff.mp same
    rw [← text]
  · intro same
    refine same.imp fun member field same => ?_
    rw [same]
    rfl

theorem valuesOf_asMembers (name : String) (fields : List (String × Json)) :
    valuesOf name (asMembers fields) = (fields.filter fun field => field.1 = name).map Prod.snd := by
  simp [valuesOf, asMembers, List.filter_map, Function.comp_def]

theorem values_of_nodup {fields : List (String × Json)} (different : (fields.map Prod.fst).Nodup)
    (name : String) :
    (fields.filter fun field => field.1 = name).map Prod.snd = (fields.lookup name).toList := by
  induction fields with
  | nil => rfl
  | cons field fields ih =>
    obtain ⟨key, value⟩ := field
    rw [List.map_cons, List.nodup_cons] at different
    rw [List.filter_cons, List.lookup_cons]
    by_cases same : name = key
    · subst same
      have others : fields.filter (fun field => field.1 = name) = [] := by
        rw [List.filter_eq_nil_iff]
        intro field found named
        exact different.1 (List.mem_map.mpr ⟨field, found, of_decide_eq_true named⟩)
      simp [others]
    · have other : (name == key) = false := by simpa using same
      rw [other, if_neg (by simpa using Ne.symm same)]
      exact ih different.2

theorem filter_known {known : List String} {fields : List (String × Json)} {name : String}
    (member : name ∈ known) :
    (fields.filter fun field => known.contains field.1).filter (fun field => field.1 = name) =
      fields.filter fun field => field.1 = name := by
  rw [List.filter_filter]
  apply List.filter_congr
  intro field _
  by_cases same : field.1 = name <;> simp [same, member]

/-- The fields of a record are the values of its known names, none of which is repeated. -/
theorem valuesOf_of_record? {known : List String} {members : List (Json.Text × Json)}
    {fields : List (String × Json)} (found : record? known members = some fields) :
    Named members ∧ ∀ name ∈ known, valuesOf name members = (fields.lookup name).toList := by
  obtain ⟨named, texts, kept⟩ := Option.bind_eq_some_iff.mp found
  obtain rfl := mapM_named.mp texts
  dsimp only at kept
  split at kept
  · next different =>
    obtain rfl := Option.some.inj kept
    refine ⟨named_iff.mpr ⟨named, rfl⟩, ?_⟩
    intro name member
    rw [valuesOf_asMembers, ← filter_known member, values_of_nodup different]
  · cases kept

theorem exists_record? {known : List String} {members : List (Json.Text × Json)} (texts : Named members)
    (once : ∀ name ∈ known, (valuesOf name members).length ≤ 1) :
    ∃ fields, record? known members = some fields := by
  obtain ⟨named, rfl⟩ := named_iff.mp texts
  have different : ((named.filter fun field => known.contains field.1).map Prod.fst).Nodup := by
    rw [List.nodup_iff_count_le_one]
    intro name
    -- a name that is not known is left out, however often it stands there
    by_cases member : name ∈ known
    · have atMost := once name member
      rw [valuesOf_asMembers, List.length_map, ← filter_known member] at atMost
      rw [List.count, List.countP_map, List.countP_eq_length_filter]
      exact atMost
    · rw [List.count_eq_zero_of_not_mem]
      · exact Nat.zero_le 1
      · intro found
        obtain ⟨field, kept, rfl⟩ := List.mem_map.mp found
        exact member (by simpa using (List.mem_filter.mp kept).2)
  refine ⟨named.filter fun field => known.contains field.1, ?_⟩
  unfold record?
  rw [mapM_named.mpr rfl]
  exact if_pos different

theorem field_eq_some_iff {β : Type} {known : List String} {members : List (Json.Text × Json)}
    {fields : List (String × Json)} {name : String} {read : Json → Option β}
    (found : record? known members = some fields) (member : name ∈ known) {value : β} :
    (fields.lookup name).bind read = some value ↔
      ∃ document, valuesOf name members = [document] ∧ read document = some value := by
  rw [(valuesOf_of_record? found).2 name member]
  cases fields.lookup name <;> simp

/-! ### The layout of the current version -/

theorem strings?_eq_some_iff {document : Json} {texts : List String} :
    strings? document = some texts ↔ document = stringsDocument texts := by
  constructor
  · intro read
    unfold strings? at read
    split at read
    · next items =>
      have same : items = texts.map fun text => .string (some text) := by
        rw [← List.forall₂_eq_eq_eq, List.forall₂_map_right_iff]
        refine (mapM_eq_some_iff.mp read).imp fun item text found => ?_
        split at found
        · rw [found]
        · cases found
      rw [same, stringsDocument]
    · cases read
  · rintro rfl
    exact strings?_stringsDocument texts

/-- A document is laid out as a template. -/
inductive TemplateLayout : Json → Prop where
  | named {members : List (Json.Text × Json)} (literals expressions : List String) (texts : Named members)
    (first : valuesOf "literals" members = [stringsDocument literals])
    (second : valuesOf "expressions" members = [stringsDocument expressions]) :
    TemplateLayout (.object members)
  | listed (literals expressions : List String) :
    TemplateLayout (.array [stringsDocument literals, stringsDocument expressions])

/-- An object is laid out as a bundle is, apart from its version. -/
structure BundleLayout (members : List (Json.Text × Json)) : Prop where
  named : Named members
  generator : ∃ text, valuesOf "generator" members = [.string (some text)]
  minified : valuesOf "minified" members = [] ∨ ∃ flag, valuesOf "minified" members = [.bool flag]
  templates : ∃ entries, valuesOf "templates" members = [.object entries] ∧ Named entries ∧
    ∀ entry ∈ entries, TemplateLayout entry.2

theorem exists_template?_iff {document : Json} :
    (∃ template, template? document = some template) ↔ TemplateLayout document := by
  constructor
  · rintro ⟨template, read⟩
    obtain ⟨fields, found, rest⟩ := Option.bind_eq_some_iff.mp read
    obtain ⟨literals, first, rest⟩ := Option.bind_eq_some_iff.mp rest
    obtain ⟨expressions, second, -⟩ := Option.bind_eq_some_iff.mp rest
    unfold fields? at found
    split at found
    · next members =>
      obtain ⟨_, only, text⟩ := (field_eq_some_iff found (by decide)).mp first
      obtain ⟨_, only', text'⟩ := (field_eq_some_iff found (by decide)).mp second
      rw [strings?_eq_some_iff.mp text] at only
      rw [strings?_eq_some_iff.mp text'] at only'
      exact .named literals expressions (valuesOf_of_record? found).1 only only'
    · next items =>
      split at found
      · next two =>
        obtain ⟨a, b, rfl⟩ := List.length_eq_two.mp two
        obtain rfl := Option.some.inj found
        rw [strings?_eq_some_iff.mp first, strings?_eq_some_iff.mp second]
        exact .listed literals expressions
      · cases found
    · cases found
  · rintro (@⟨members, literals, expressions, texts, only, only'⟩ | ⟨literals, expressions⟩)
    · have once : ∀ name ∈ ["literals", "expressions"], (valuesOf name members).length ≤ 1 := by
        simp [only, only']
      obtain ⟨fields, found⟩ := exists_record? texts once
      have first := (field_eq_some_iff found (by decide)).mpr ⟨_, only, strings?_stringsDocument literals⟩
      have second := (field_eq_some_iff found (by decide)).mpr ⟨_, only', strings?_stringsDocument expressions⟩
      refine ⟨⟨literals, expressions⟩, ?_⟩
      simp only [template?, fields?, found, Option.bind_eq_bind, Option.bind_some, first, second]
    · have first := strings?_stringsDocument literals
      have second := strings?_stringsDocument expressions
      refine ⟨⟨literals, expressions⟩, ?_⟩
      change ((strings? (stringsDocument literals)).bind fun literals =>
        (strings? (stringsDocument expressions)).bind fun expressions =>
          some (⟨literals, expressions⟩ : Template)) = _
      rw [first, second]
      rfl

theorem exists_entry_iff {entry : Json.Text × Json} :
    (∃ read, (do
      let name ← entry.1
      let template ← template? entry.2
      some (name, template)) = some read) ↔ entry.1.isSome ∧ TemplateLayout entry.2 := by
  rw [← exists_template?_iff]
  cases entry.1 <;> simp [Option.bind_eq_some_iff]

theorem exists_templates?_iff {document : Json} :
    (∃ templates, templates? document = some templates) ↔
      ∃ entries, document = .object entries ∧ Named entries ∧ ∀ entry ∈ entries, TemplateLayout entry.2 := by
  constructor
  · rintro ⟨templates, read⟩
    unfold templates? at read
    split at read
    · next entries =>
      obtain ⟨pairs, each, -⟩ := Option.bind_eq_some_iff.mp read
      have laid := fun entry member => exists_entry_iff.mp (exists_mapM_iff.mp ⟨pairs, each⟩ entry member)
      exact ⟨entries, rfl, fun entry member => (laid entry member).1, fun entry member => (laid entry member).2⟩
    · cases read
  · rintro ⟨entries, rfl, texts, laid⟩
    obtain ⟨pairs, each⟩ := exists_mapM_iff.mpr fun entry member =>
      exists_entry_iff.mpr ⟨texts entry member, laid entry member⟩
    exact ⟨.ofList pairs, by rw [templates?, each]; rfl⟩

theorem string?_eq_some_iff {document : Json} {text : String} :
    string? document = some text ↔ document = .string (some text) := by
  cases document <;> simp [string?]

theorem flag?_eq_some_iff {document : Json} {flag : Bool} :
    flag? document = some flag ↔ document = .bool flag := by
  cases document <;> simp [flag?]

def flagOf? (fields : List (String × Json)) : Option Bool :=
  match fields.lookup "minified" with
  | none => some false
  | some field => flag? field

theorem ofJson?_object (members : List (Json.Text × Json)) :
    ofJson? (.object members) =
      (record? ["generator", "format_version", "minified", "templates"] members).bind fun fields =>
        ((fields.lookup "generator").bind string?).bind fun generator =>
          ((fields.lookup "format_version").bind version?).bind fun version =>
            (flagOf? fields).bind fun minified =>
              ((fields.lookup "templates").bind templates?).bind fun templates =>
                some ⟨generator, version, minified, templates⟩ := by
  unfold ofJson? flagOf?
  simp only [fields?, Option.bind_eq_bind]
  congr
  funext fields
  cases fields.lookup "minified" <;> rfl

/-- An object that a bundle is read from is in the layout and states the version of the bundle. -/
theorem layout_of_ofJson? {members : List (Json.Text × Json)} {bundle : Bundle}
    (read : ofJson? (.object members) = some bundle) :
    BundleLayout members ∧ ∃ document, valuesOf "format_version" members = [document] ∧
      version? document = some bundle.formatVersion := by
  rw [ofJson?_object] at read
  obtain ⟨fields, found, rest⟩ := Option.bind_eq_some_iff.mp read
  obtain ⟨generator, first, rest⟩ := Option.bind_eq_some_iff.mp rest
  obtain ⟨version, second, rest⟩ := Option.bind_eq_some_iff.mp rest
  obtain ⟨minified, third, rest⟩ := Option.bind_eq_some_iff.mp rest
  obtain ⟨templates, fourth, same⟩ := Option.bind_eq_some_iff.mp rest
  obtain rfl := Option.some.inj same
  obtain ⟨texts, values⟩ := valuesOf_of_record? found
  obtain ⟨_, only, text⟩ := (field_eq_some_iff found (by decide)).mp first
  obtain ⟨_, only', laid⟩ := (field_eq_some_iff found (by decide)).mp fourth
  obtain ⟨entries, rfl, named, each⟩ := exists_templates?_iff.mp ⟨templates, laid⟩
  rw [string?_eq_some_iff.mp text] at only
  refine ⟨⟨texts, ⟨generator, only⟩, ?_, ⟨entries, only', named, each⟩⟩, ?_⟩
  · rw [values "minified" (by decide)]
    unfold flagOf? at third
    split at third
    · next missing => exact .inl (by rw [missing]; rfl)
    · next field given =>
      rw [given, flag?_eq_some_iff.mp third]
      exact .inr ⟨minified, rfl⟩
  · exact (field_eq_some_iff found (by decide)).mp second

theorem exists_ofJson? {members : List (Json.Text × Json)} {document : Json} {version : Nat}
    (layout : BundleLayout members) (stated : valuesOf "format_version" members = [document])
    (number : version? document = some version) : ∃ bundle, ofJson? (.object members) = some bundle := by
  obtain ⟨text, generator⟩ := layout.generator
  obtain ⟨entries, only, laid⟩ := layout.templates
  obtain ⟨templates, read⟩ := exists_templates?_iff.mpr ⟨entries, rfl, laid⟩
  have once : ∀ name ∈ ["generator", "format_version", "minified", "templates"],
      (valuesOf name members).length ≤ 1 := by
    rcases layout.minified with missing | ⟨flag, given⟩ <;> simp [*]
  obtain ⟨fields, found⟩ := exists_record? layout.named once
  have first := (field_eq_some_iff found (by decide)).mpr ⟨_, generator, string?_eq_some_iff.mpr rfl⟩
  have second := (field_eq_some_iff found (by decide)).mpr ⟨_, stated, number⟩
  have fourth := (field_eq_some_iff found (by decide)).mpr ⟨_, only, read⟩
  obtain ⟨minified, third⟩ : ∃ minified, flagOf? fields = some minified := by
    have values := (valuesOf_of_record? found).2 "minified" (by decide)
    unfold flagOf?
    split
    · exact ⟨false, rfl⟩
    · next field given =>
      rw [given] at values
      rcases layout.minified with missing | ⟨flag, only⟩
      · rw [missing] at values
        cases values
      · rw [only] at values
        obtain rfl := (List.cons.inj values).1
        exact ⟨flag, rfl⟩
  refine ⟨⟨text, version, minified, templates⟩, ?_⟩
  rw [ofJson?_object, found, Option.bind_some, first, Option.bind_some, second, Option.bind_some, third,
    Option.bind_some, fourth, Option.bind_some]

/-! ### Versions -/

/-- An object states a version: it has one such member, which is a number of at most 32 bits. -/
def StatesVersion (members : List (Json.Text × Json)) (version : Nat) : Prop :=
  version < Decimal.twoTo 32 ∧ ∃ number : Json.Number,
    valuesOf "format_version" members = [.number number] ∧ number.toData? = some (.int version)

/-- A text that states another version is answered by that version as long as it is in the layout of
the current one; in any other layout it is malformed. -/
theorem ofText_otherVersion {text : String} {members : List (Json.Text × Json)} {version : Nat}
    (spelled : Json.ofText? text = some (.object members)) (states : StatesVersion members version)
    (other : version ≠ currentVersion) :
    (ofText text = .error (.bundle (.unsupportedVersion version currentVersion)) ↔ BundleLayout members) ∧
      (ofText text = .error (.bundle .malformed) ↔ ¬ BundleLayout members) := by
  obtain ⟨fits, number, stated, whole⟩ := states
  have counted := version?_number fits whole
  unfold ofText
  rw [spelled, Option.bind_some]
  cases read : ofJson? (.object members) with
  | none =>
    have apart : ¬ BundleLayout members := fun layout => by
      obtain ⟨bundle, read'⟩ := exists_ofJson? layout stated counted
      exact absurd (read.symm.trans read') (by simp)
    simp [apart]
  | some bundle =>
    obtain ⟨layout, document, stated', counted'⟩ := layout_of_ofJson? read
    have same : bundle.formatVersion = version := by
      rw [stated] at stated'
      obtain rfl := (List.cons.inj stated').1
      exact Option.some.inj (counted'.symm.trans counted)
    simp [layout, same, other]

def laterMembers : List (Json.Text × Json) :=
  [(some "format_version", .number ⟨false, ['9', '9'], none, none⟩), (some "generator", .string (some "x")),
    (some "hint", .null),
    (some "templates", .object [(some "page", .array [stringsDocument ["hi"], stringsDocument []])])]

def laterText : String :=
  "\x7b\"format_version\": 99, \"generator\": \"x\", \"hint\": null, "
    ++ "\"templates\": \x7b\"page\": [[\"hi\"], []]\x7d\x7d"

theorem ofText_otherVersion_later :
    Json.ofText? laterText = some (.object laterMembers) ∧ StatesVersion laterMembers 99 ∧
      99 ≠ currentVersion ∧ BundleLayout laterMembers ∧
      ofText laterText = .error (.bundle (.unsupportedVersion 99 currentVersion)) := by
  have spelled : Json.ofText? laterText = some (.object laterMembers) :=
    Json.ofText?_of_tokens (by decide +kernel)
  have states : StatesVersion laterMembers 99 := ⟨by decide, _, rfl, rfl⟩
  have layout : BundleLayout laterMembers := by
    refine ⟨by simp [Named, laterMembers], ⟨"x", rfl⟩, .inl rfl,
      ⟨[(some "page", .array [stringsDocument ["hi"], stringsDocument []])], rfl, by simp [Named], ?_⟩⟩
    rw [List.forall_mem_singleton]
    exact .listed ["hi"] []
  exact ⟨spelled, states, by decide, layout, (ofText_otherVersion spelled states (by decide)).1.mpr layout⟩

/-- The members of a text of version 2 that calls its templates pages. -/
def renamedMembers : List (Json.Text × Json) :=
  [(some "generator", .string (some "x")), (some "format_version", .number ⟨false, ['2'], none, none⟩),
    (some "pages", .object [])]

def renamedText : String := "\x7b\"generator\": \"x\", \"format_version\": 2, \"pages\": \x7b\x7d\x7d"

/-- A text that states version 2 is malformed, as its version is not looked at. -/
theorem ofText_renamedText :
    Json.ofText? renamedText = some (.object renamedMembers) ∧ StatesVersion renamedMembers 2 ∧
      2 ≠ currentVersion ∧ ofText renamedText = .error (.bundle .malformed) ∧
      ofText renamedText ≠ .error (.bundle (.unsupportedVersion 2 currentVersion)) := by
  have spelled : Json.ofText? renamedText = some (.object renamedMembers) :=
    Json.ofText?_of_tokens (by decide +kernel)
  exact ⟨spelled, ⟨by decide, _, rfl, rfl⟩, by decide, by decide +kernel, by decide +kernel⟩

end Bundle

end BlockTemplates
