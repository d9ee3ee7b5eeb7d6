import BlockTemplates.Proofs.Compose.Spacing
import BlockTemplates.TemplateSet

/-! Minified sets of templates beside those that are not. Both load or fail alike, and what is
loaded differs in the blanks of literals only. Main statement: `ofSources_minified`. -/

namespace BlockTemplates

open SegmentSequence (Part)

namespace Template

/-- The templates have the same expressions between respaced literals. -/
def Respaced (first second : Template) : Prop :=
  List.Forall₂ Text.Respaced first.literals second.literals ∧ first.expressions = second.expressions

variable {first second : Template}

theorem respaced_ofSource (name source : String) :
    Result.Rel Respaced (ofSource name source true) (ofSource name source false) := by
  unfold ofSource
  cases Source.split source with
  | error opened => exact .failed _
  | ok parts => exact .done ⟨respaced_minify parts.literals, rfl⟩

theorem Respaced.validate (same : Respaced first second) (name : String) :
    first.validate name = second.validate name := by
  unfold Template.validate
  rw [same.1.length_eq, same.2]

theorem respaced_parts (text : String → Result (Option String)) {literals literals' : List String}
    (same : List.Forall₂ Text.Respaced literals literals') (expressions : List String) :
    Result.Rel (List.Forall₂ Part.Respaced) (parts text literals expressions)
      (parts text literals' expressions) := by
  induction same generalizing expressions with
  | nil => exact .done .nil
  | cons head _ ih =>
    cases expressions with
    | nil =>
      apply (ih []).bind
      intro rest rest' same
      exact .done (.cons (.literal head) same)
    | cons expression expressions =>
      unfold parts
      cases text expression with
      | error failure => exact .failed failure
      | ok value =>
        apply (ih expressions).bind
        intro rest rest' same
        exact .done (.cons (.literal head) (.cons (.value value) same))

theorem Respaced.produce (same : Respaced first second) (environment : Expr.Environment)
    (name : String) (data : Expr.Value) :
    Result.Rel SegmentSequence.Respaced (first.produce environment name data)
      (second.produce environment name data) := by
  unfold Template.produce
  rw [same.2]
  apply (respaced_parts _ same.1 _).bind
  intro made made' respaced
  exact .done (.build respaced)

end Template

/-- The pages have the same evaluated text, and so extend the same page and collect blocks of the
same names. -/
structure SegmentSequence.SameValues (first second : SegmentSequence) : Prop where
  values : first.filter Segment.isDynamic = second.filter Segment.isDynamic
  target : extendTarget? first = extendTarget? second
  blocks : (extractBlocks first).blocks.keys = (extractBlocks second).blocks.keys

theorem SegmentSequence.Respaced.sameValues {first second : SegmentSequence}
    (same : Respaced first second) : SameValues first second :=
  ⟨same.dynamic, same.extendTarget?, (respaced_extractBlocks same).keys⟩

namespace TemplateSet

/-- The sets have the same templates up to blanks in literals, and their pages are made and rendered
alike up to these. -/
structure SameMeaning (first second : TemplateSet) : Prop where
  names : first.names = second.names
  expressions : ∀ name,
    (first.get? name).map Template.expressions = (second.get? name).map Template.expressions
  declaredBase : ∀ name, first.declaredBase? name = second.declaredBase? name
  pages : ∀ name role data, Result.Rel SegmentSequence.SameValues
    (produce first.lookup name role data) (produce second.lookup name role data)
  renders : ∀ name data, Result.Rel Text.Respaced
    (BlockTemplates.render first.lookup name data).result
    (BlockTemplates.render second.lookup name data).result

def Respaced (first second : TemplateSet) : Prop :=
  first.environment = second.environment ∧
    Dict.Rel Template.Respaced first.templates second.templates

variable {first second : TemplateSet}

theorem respaced_ofBundle (environment : Expr.Environment) {bundle bundle' : Bundle}
    (same : Dict.Rel Template.Respaced bundle.templates bundle'.templates) :
    Result.Rel Respaced (ofBundle environment bundle) (ofBundle environment bundle') := by
  have checked : bundle.templates.entries.forM (fun entry => entry.2.validate entry.1) =
      bundle'.templates.entries.forM (fun entry => entry.2.validate entry.1) := by
    apply Result.forM_eq same
    intro entry entry' alike
    rw [alike.1, alike.2.validate]
  unfold ofBundle
  rw [checked]
  cases bundle'.templates.entries.forM fun entry => entry.2.validate entry.1 with
  | error failure => exact .failed failure
  | ok _ => exact .done ⟨rfl, same⟩

theorem respaced_bundleOfSources (sources : List (String × String)) :
    Result.Rel (fun bundle bundle' => Dict.Rel Template.Respaced bundle.templates bundle'.templates)
      (bundleOfSources true sources) (bundleOfSources false sources) := by
  have same : List.Forall₂ Eq sources sources := List.forall₂_same.mpr fun _ _ => rfl
  have compiled : ∀ source source' : String × String, source = source' →
      Result.Rel (fun entry entry' => entry.1 = entry'.1 ∧ entry.2.Respaced entry'.2)
        (return (source.1, ← Template.ofSource source.1 source.2 true) : Result (String × Template))
        (return (source'.1, ← Template.ofSource source'.1 source'.2 false)) := by
    rintro source _ rfl
    apply (Template.respaced_ofSource source.1 source.2).bind
    intro template template' same
    exact .done ⟨rfl, same⟩
  apply (Result.Rel.mapM same compiled).bind
  intro entries entries' alike
  exact .done (Dict.Rel.ofList alike)

theorem respaced_ofSources (environment : Expr.Environment) (sources : List (String × String)) :
    Result.Rel Respaced (ofSources environment true sources) (ofSources environment false sources) := by
  apply (respaced_bundleOfSources sources).bind
  intro bundle bundle' same
  exact respaced_ofBundle environment same

theorem Respaced.get? (same : Respaced first second) (name : String) :
    Option.Rel Template.Respaced (first.get? name) (second.get? name) := same.2.get? name

theorem Respaced.expressions (same : Respaced first second) (name : String) :
    (first.get? name).map Template.expressions = (second.get? name).map Template.expressions := by
  have found := same.get? name
  generalize first.get? name = template?, second.get? name = template?' at found ⊢
  cases found with
  | none => rfl
  | some alike => exact congrArg some alike.2

theorem declaredBase?_eq (set : TemplateSet) (name : String) :
    set.declaredBase? name =
      ((set.get? name).map Template.expressions).bind (·.findSome? Template.baseOf?) := by
  unfold declaredBase? Template.declaredBase?
  cases set.get? name <;> rfl

theorem Respaced.page (same : Respaced first second) (name : String) (role : TemplateRole)
    (data : Expr.Value) :
    Result.Rel SegmentSequence.Respaced (BlockTemplates.produce first.lookup name role data)
      (BlockTemplates.produce second.lookup name role data) := by
  have found := same.get? name
  unfold BlockTemplates.produce lookup
  rw [same.1]
  generalize first.get? name = template?, second.get? name = template?' at found ⊢
  cases found with
  | none => exact .failed _
  | some alike => exact alike.produce second.environment name data

theorem Respaced.sameMeaning (same : Respaced first second) : SameMeaning first second where
  names := same.2.keys
  expressions := same.expressions
  declaredBase name := by rw [declaredBase?_eq, declaredBase?_eq, same.expressions]
  pages name role data := (same.page name role data).mono fun _ _ alike => alike.sameValues
  renders name data := respaced_render (fun name role => same.page name role data) name

/-- Loading sources minified fails exactly as loading them as they are; otherwise both sets have
the same names, expressions and declared bases, make pages with the same evaluated text, and answer
renders with the same failure or with texts that differ in blanks only. -/
theorem ofSources_minified (environment : Expr.Environment) (sources : List (String × String)) :
    Result.Rel SameMeaning (ofSources environment true sources) (ofSources environment false sources) := by
  apply (respaced_ofSources environment sources).mono
  intro small full same
  exact same.sameMeaning

end TemplateSet

end BlockTemplates
