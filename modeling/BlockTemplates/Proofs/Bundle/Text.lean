import BlockTemplates.Project.Folder
import BlockTemplates.Proofs.Dict
import BlockTemplates.Proofs.Json.Writer

/-! Bundles written and read. The text of a bundle is the text of a JSON document, and a bundle is
what its document holds. Main statement: `text_roundTrip`. -/

namespace BlockTemplates

namespace Bundle

open Json (Scans ScansBefore scans_gap scans_token scans_quote scans_natText scans_stringLines
  scans_memberLines)

def stringsDocument (items : List String) : Json := .array (items.map fun item => .string (some item))

def templateDocument (template : Template) : Json :=
  .object [(some "literals", stringsDocument template.literals),
    (some "expressions", stringsDocument template.expressions)]

def document (bundle : Bundle) : Json :=
  .object [(some "generator", .string (some bundle.generator)),
    (some "format_version", .number ⟨false, Nat.toDigits 10 bundle.formatVersion, none, none⟩),
    (some "minified", .bool bundle.minified),
    (some "templates",
      .object (bundle.templates.entries.map fun entry => (some entry.1, templateDocument entry.2)))]

theorem scans_templateText (template : Template) :
    Scans (templateText template).toList (templateDocument template).tokens := by
  unfold templateText templateDocument stringsDocument
  apply scans_memberLines 2
  apply List.Forall₂.cons
  · exact ⟨rfl, (scans_stringLines 3 template.literals).before⟩
  apply List.Forall₂.cons
  · exact ⟨rfl, (scans_stringLines 3 template.expressions).before⟩
  exact .nil

theorem scans_flag (flag : Bool) :
    Scans (if flag then "true" else "false").toList (Json.bool flag).tokens := by
  cases flag
  · exact scans_token (by decide) fun _ => rfl
  · exact scans_token (by decide) fun _ => rfl

theorem scans_templates (entries : List (String × Template)) :
    Scans (Json.memberLines 1 (entries.map fun entry => (entry.1, templateText entry.2))).toList
      (Json.object (entries.map fun entry => (some entry.1, templateDocument entry.2))).tokens := by
  apply scans_memberLines 1
  induction entries with
  | nil => exact .nil
  | cons entry entries ih => exact .cons ⟨rfl, (scans_templateText entry.2).before⟩ ih

theorem scans_toText (bundle : Bundle) : Scans bundle.toText.toList bundle.document.tokens := by
  have lines : Scans (Json.memberLines 0
      [("generator", Json.quote bundle.generator),
        ("format_version", Decimal.natText bundle.formatVersion),
        ("minified", if bundle.minified then "true" else "false"),
        ("templates", Json.memberLines 1
          (bundle.templates.entries.map fun entry => (entry.1, templateText entry.2)))]).toList
      bundle.document.tokens := by
    unfold document
    apply scans_memberLines 0
    apply List.Forall₂.cons
    · exact ⟨rfl, (scans_quote bundle.generator).before⟩
    apply List.Forall₂.cons
    · exact ⟨rfl, scans_natText bundle.formatVersion⟩
    apply List.Forall₂.cons
    · exact ⟨rfl, (scans_flag bundle.minified).before⟩
    apply List.Forall₂.cons
    · exact ⟨rfl, (scans_templates bundle.templates.entries).before⟩
    exact .nil
  have ended : Scans ['\n'] [] := scans_gap (by decide)
  have whole := lines.append ended
  unfold toText
  rw [String.toList_append]
  rwa [List.append_nil] at whole

theorem ofText?_toText (bundle : Bundle) : Json.ofText? bundle.toText = some bundle.document := by
  have scanned := scans_toText bundle []
  rw [List.append_nil] at scanned
  apply Json.ofText?_of_tokens
  rw [scanned]
  simp [Json.tokens?]

theorem mapM_map {α β : Type} {write : α → β} {read : β → Option α}
    (inverse : ∀ item, read (write item) = some item) (items : List α) :
    (items.map write).mapM read = some items := by
  induction items with
  | nil => rfl
  | cons item items ih =>
    rw [List.map_cons, List.mapM_cons, inverse, ih]
    rfl

theorem strings?_stringsDocument (items : List String) : strings? (stringsDocument items) = some items := by
  unfold stringsDocument strings?
  dsimp only
  rw [mapM_map]
  intro item
  rfl

theorem template?_templateDocument (template : Template) :
    template? (templateDocument template) = some template := by
  have known : fields? ["literals", "expressions"] (templateDocument template) =
      some [("literals", stringsDocument template.literals),
        ("expressions", stringsDocument template.expressions)] := by
    rfl
  unfold template?
  rw [known]
  change ((strings? (stringsDocument template.literals)).bind fun literals =>
    (strings? (stringsDocument template.expressions)).bind fun expressions =>
      some (⟨literals, expressions⟩ : Template)) = _
  rw [strings?_stringsDocument, strings?_stringsDocument]
  rfl

theorem templates?_document (templates : Dict Template) :
    templates? (.object (templates.entries.map fun entry => (some entry.1, templateDocument entry.2))) =
      some templates := by
  have read : ∀ entry : String × Template, (do
      let name ← some entry.1
      let template ← template? (templateDocument entry.2)
      some (name, template)) = some entry := by
    intro entry
    rw [template?_templateDocument]
    rfl
  unfold templates?
  dsimp only
  rw [mapM_map read, Option.bind_eq_bind, Option.bind_some, Dict.ofList_entries]

theorem version?_number {number : Json.Number} {version : Nat} (fits : version < Decimal.twoTo 32)
    (whole : number.toData? = some (.int version)) : version? (.number number) = some version := by
  have bounds : (0 : Int) ≤ version ∧ (version : Int) < Decimal.twoTo 32 := by omega
  unfold version?
  dsimp only
  rw [whole]
  dsimp only
  rw [if_pos bounds, Int.natAbs_natCast]

theorem version?_toDigits {version : Nat} (fits : version < Decimal.twoTo 32) :
    version? (.number ⟨false, Nat.toDigits 10 version, none, none⟩) = some version := by
  have size : Decimal.foldDigits 0 (Nat.toDigits 10 version) = version :=
    Nat.ofDigitChars_toDigits (by decide) (by decide)
  have word : version ≤ Json.word := Nat.le_trans (Nat.le_of_lt fits) (by decide)
  have data : Json.Number.toData? ⟨false, Nat.toDigits 10 version, none, none⟩ = some (.int version) := by
    unfold Json.Number.toData?
    simp only [size, Bool.false_eq_true, if_false, if_pos word]
  exact version?_number fits data

/-- The document of a bundle holds the bundle, as long as its version fits 32 bits. -/
theorem ofJson?_document {bundle : Bundle} (fits : bundle.formatVersion < Decimal.twoTo 32) :
    ofJson? bundle.document = some bundle := by
  have known : fields? ["generator", "format_version", "minified", "templates"] bundle.document =
      some [("generator", .string (some bundle.generator)),
        ("format_version", .number ⟨false, Nat.toDigits 10 bundle.formatVersion, none, none⟩),
        ("minified", .bool bundle.minified),
        ("templates",
          .object (bundle.templates.entries.map fun entry => (some entry.1, templateDocument entry.2)))] := by
    rfl
  unfold ofJson?
  rw [known]
  change ((version? (.number ⟨false, Nat.toDigits 10 bundle.formatVersion, none, none⟩)).bind fun version =>
    (templates? (.object (bundle.templates.entries.map fun entry =>
      (some entry.1, templateDocument entry.2)))).bind fun templates =>
        some (⟨bundle.generator, version, bundle.minified, templates⟩ : Bundle)) = _
  rw [version?_toDigits fits, templates?_document]
  rfl

theorem ofText_toText {bundle : Bundle} (fits : bundle.formatVersion < Decimal.twoTo 32) :
    ofText bundle.toText =
      if bundle.formatVersion = currentVersion then .ok bundle
      else .error (.bundle (.unsupportedVersion bundle.formatVersion currentVersion)) := by
  unfold ofText
  rw [ofText?_toText, Option.bind_some, ofJson?_document fits]
  dsimp only
  rw [ite_not]

theorem ofText_toText_current {bundle : Bundle} (current : bundle.formatVersion = currentVersion) :
    ofText bundle.toText = .ok bundle := by
  have fits : bundle.formatVersion < Decimal.twoTo 32 := by
    rw [current]
    decide
  rw [ofText_toText fits, if_pos current]

theorem read_of_readText {files : FileSystem} {path : Path} {bundle : Bundle}
    (current : bundle.formatVersion = currentVersion) (text : files.readText path = .ok bundle.toText) :
    read files path = .ok bundle := by
  unfold read
  rw [text]
  exact ofText_toText_current current

theorem formatVersion_of_ofText {text : String} {bundle : Bundle} (read : ofText text = .ok bundle) :
    bundle.formatVersion = currentVersion := by
  unfold ofText at read
  split at read
  · cases read
  · split at read
    · cases read
    · next current =>
      obtain rfl := Except.ok.inj read
      exact not_not.mp current

/-- A bundle of the current version is read back from its text; a bundle that has been read from
any text is read again from its own text, which stays the same. -/
theorem text_roundTrip :
    (∀ bundle : Bundle, bundle.formatVersion = currentVersion → ofText bundle.toText = .ok bundle) ∧
      ∀ (text : String) (bundle : Bundle), ofText text = .ok bundle →
        ofText bundle.toText = .ok bundle ∧
          (ofText bundle.toText).map toText = .ok bundle.toText := by
  constructor
  · intro bundle current
    exact ofText_toText_current current
  · intro text bundle read
    have again := ofText_toText_current (formatVersion_of_ofText read)
    refine ⟨again, ?_⟩
    rw [again]
    rfl

/-- A template whose counts do not fit, with characters that are escaped. -/
def unevenBundle : Bundle :=
  ⟨"\x08\n", currentVersion, true, .ofList [("a\"b", ⟨["<\\\x01", ""], ["é", "", "\t"]⟩)]⟩

def positionalText : String :=
  "[\"\\b\\u000A\", 1, true, \x7b\"a\\\"b\": [[\"<\\\\\\u0001\", \"\"], [\"\\u00e9\", \"\", \"\\t\"]]\x7d]"

theorem text_roundTrip_positional :
    unevenBundle.formatVersion = currentVersion ∧ ofText unevenBundle.toText = .ok unevenBundle ∧
      ofText positionalText = .ok unevenBundle ∧
      (ofText unevenBundle.toText).map toText = .ok unevenBundle.toText := by
  have read : ofText positionalText = .ok unevenBundle := by decide +kernel
  exact ⟨rfl, text_roundTrip.1 unevenBundle rfl, read, (text_roundTrip.2 positionalText unevenBundle read).2⟩

end Bundle

end BlockTemplates
