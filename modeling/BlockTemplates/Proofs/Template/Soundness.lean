import BlockTemplates.Proofs.Compose.Weaving
import BlockTemplates.Proofs.Source.Image
import BlockTemplates.Proofs.Template.Validation
import BlockTemplates.Proofs.Text.Thinning

/-! What sound templates produce. None of their expressions fails to be read, so a page is made of all
literals and all values unless an expression has no value, and then the first such expression is
reported. Main statement: `ofBundle_exact`. -/

namespace BlockTemplates

namespace Template

def Evaluates (environment : Expr.Environment) (data : Expr.Value) (expression : String)
    (value : Expr.Value) : Prop :=
  ∃ read, Expr.compile expression = .ok read ∧ Expr.eval environment data read = .ok value

/-- What becomes of a template for some data: the page of its literals and the texts of its expressions,
or the failure of the first expression that can be read and has no value. -/
inductive Outcome (environment : Expr.Environment) (name : String) (template : Template)
    (data : Expr.Value) : Result SegmentSequence → Prop
  | page {values : List Expr.Value} {page : SegmentSequence}
      (evaluated : List.Forall₂ (Evaluates environment data) template.expressions values)
      (woven : SegmentSequence.Woven template.literals (values.map Expr.Value.pageText?) page) :
      Outcome environment name template data (.ok page)
  | stopped {before after : List String} {expression : String} {read : Expr} {error : Expr.Error}
      (whole : template.expressions = before ++ expression :: after)
      (earlier : ∀ e ∈ before, ∃ value, Evaluates environment data e value)
      (readable : Expr.compile expression = .ok read)
      (fails : Expr.eval environment data read = .error error) :
      Outcome environment name template data (.error (.expression name error))

section Evaluation

variable {environment : Expr.Environment} {name expression : String} {data : Expr.Value}

theorem expressionText_eq_ok_iff {text : Option String} :
    expressionText environment name data expression = .ok text ↔
      ∃ value, Evaluates environment data expression value ∧ value.pageText? = text := by
  unfold expressionText Expr.evaluate Evaluates
  cases Expr.compile expression with
  | error error => simp [Except.bind]
  | ok read => cases evaluated : Expr.eval environment data read <;> simp [Except.bind, evaluated]

theorem expressionText_eq_error_iff {read : Expr} (readable : Expr.compile expression = .ok read)
    {failure : Failure} : expressionText environment name data expression = .error failure ↔
      ∃ error, Expr.eval environment data read = .error error ∧ Failure.expression name error = failure := by
  unfold expressionText Expr.evaluate
  rw [readable]
  cases evaluated : Expr.eval environment data read <;> simp [Except.bind, evaluated]

theorem mapM_expressionText_eq_ok_iff {expressions : List String} {texts : List (Option String)} :
    expressions.mapM (expressionText environment name data) = .ok texts ↔
      ∃ values, List.Forall₂ (Evaluates environment data) expressions values ∧
        values.map Expr.Value.pageText? = texts := by
  rw [Result.mapM_eq_ok_iff]
  simp only [expressionText_eq_ok_iff]
  constructor
  · intro related
    induction related with
    | nil => exact ⟨[], .nil, rfl⟩
    | cons head _ ih =>
      obtain ⟨value, evaluated, rfl⟩ := head
      obtain ⟨values, rest, rfl⟩ := ih
      exact ⟨value :: values, .cons evaluated rest, rfl⟩
  · rintro ⟨values, evaluated, rfl⟩
    rw [List.forall₂_map_right_iff]
    exact evaluated.imp fun _ value found => ⟨value, found, rfl⟩

end Evaluation

section Sound

variable {environment : Expr.Environment} {name : String} {template : Template} {data : Expr.Value}

theorem Sound.woven (sound : template.Sound) {values : List Expr.Value}
    (evaluated : List.Forall₂ (Evaluates environment data) template.expressions values) :
    SegmentSequence.Woven template.literals (values.map Expr.Value.pageText?)
      (SegmentSequence.ofParts template.literals (values.map Expr.Value.pageText?)) := by
  have woven := SegmentSequence.woven_ofParts template.literals (values.map Expr.Value.pageText?)
  have fits : template.literals.length = (values.map Expr.Value.pageText?).length + 1 := by
    rw [List.length_map, ← evaluated.length_eq]
    exact sound.count
  rwa [SegmentSequence.fitted_of_length fits] at woven

theorem Sound.outcome (sound : template.Sound) :
    Outcome environment name template data (template.produce environment name data) := by
  rw [produce_eq sound.count]
  cases texts : template.expressions.mapM (expressionText environment name data) with
  | error failure =>
    obtain ⟨before, expression, after, whole, earlier, failed⟩ := Result.mapM_eq_error_iff.mp texts
    -- a sound template has been read as a whole, so it is the evaluation that failed
    obtain ⟨read, readable⟩ := sound.readable expression (by rw [whole]; simp)
    obtain ⟨error, fails, rfl⟩ := (expressionText_eq_error_iff readable).mp failed
    refine .stopped whole (fun e first => ?_) readable fails
    obtain ⟨text, done⟩ := earlier e first
    obtain ⟨value, evaluated, -⟩ := expressionText_eq_ok_iff.mp done
    exact ⟨value, evaluated⟩
  | ok texts =>
    obtain ⟨values, evaluated, rfl⟩ := mapM_expressionText_eq_ok_iff.mp texts
    exact .page evaluated (sound.woven evaluated)

theorem Outcome.produce_eq (sound : template.Sound) {answer : Result SegmentSequence}
    (outcome : Outcome environment name template data answer) :
    template.produce environment name data = answer := by
  rw [Template.produce_eq sound.count]
  cases outcome with
  | @page values page evaluated woven =>
    rw [mapM_expressionText_eq_ok_iff.mpr ⟨values, evaluated, rfl⟩, woven.unique (sound.woven evaluated)]
    rfl
  | @stopped before after expression read error whole earlier readable fails =>
    have failed : template.expressions.mapM (expressionText environment name data) =
        .error (.expression name error) := by
      refine Result.mapM_eq_error_iff.mpr ⟨_, _, _, whole, fun e first => ?_, ?_⟩
      · obtain ⟨value, evaluated⟩ := earlier e first
        exact ⟨value.pageText?, expressionText_eq_ok_iff.mpr ⟨value, evaluated, rfl⟩⟩
      · exact (expressionText_eq_error_iff readable).mpr ⟨_, fails, rfl⟩
    rw [failed]
    rfl

end Sound

theorem count_ofSource {name source : String} {minified : Bool} {template : Template}
    (compiled : ofSource name source minified = .ok template) :
    template.literals.length = template.expressions.length + 1 := by
  unfold ofSource at compiled
  cases splits : Source.split source with
  | error opened =>
    rw [splits] at compiled
    cases compiled
  | ok parts =>
    have written := Source.writable_of_splitsInto ⟨parts, splits, rfl, rfl⟩
    have count : parts.literals.length = parts.holes.length + 1 := by simpa using written.count
    rw [splits] at compiled
    obtain rfl := Except.ok.inj compiled
    cases minified with
    | true => simpa [length_minify] using count
    | false => simpa using count

theorem validate_ne_of_count {template : Template}
    (count : template.literals.length = template.expressions.length + 1) (name : String)
    (problem : BundleProblem) : template.validate name ≠ .error (.bundle problem) := by
  intro failed
  cases validate_eq_error_iff.mp failed with
  | chunks misfit => exact misfit count

end Template

namespace TemplateSet

theorem exists_ofBundle_iff {environment : Expr.Environment} {bundle : Bundle} :
    (∃ set, ofBundle environment bundle = .ok set) ↔
      ∀ name template, bundle.templates.get? name = some template → template.Sound := by
  simp only [ofBundle_eq_ok_iff, Template.validate_eq_ok_iff, exists_and_left, exists_eq, and_true]
  constructor
  · exact fun sound name template found => sound (name, template) (Dict.mem_entries_iff.mpr found)
  · exact fun sound entry held => sound entry.1 entry.2 (Dict.mem_entries_iff.mp held)

theorem produce_eq_iff {environment : Expr.Environment} {bundle : Bundle} {set : TemplateSet}
    {name : String} {template : Template} (loaded : ofBundle environment bundle = .ok set)
    (found : set.get? name = some template) (role : TemplateRole) (data : Expr.Value)
    (answer : Result SegmentSequence) :
    produce set.lookup name role data = answer ↔ template.Outcome environment name data answer := by
  have sound := sound_of_ofBundle loaded found
  obtain ⟨-, rfl⟩ := ofBundle_eq_ok_iff.mp loaded
  have made : produce (lookup ⟨environment, bundle.minified, bundle.templates⟩) name role data =
      template.produce environment name data := by
    rw [produce, lookup, found]
    rfl
  rw [made]
  constructor
  · rintro rfl
    exact sound.outcome
  · exact fun outcome => outcome.produce_eq sound

/-- A bundle is loaded exactly when all of its templates are sound; otherwise the fault of the first one
that is not is reported. All templates of a loaded set are sound, so that what they produce depends on
the evaluation of their expressions alone. Templates made of sources never have too many literals or too
few. -/
theorem ofBundle_exact (environment : Expr.Environment) :
    (∀ bundle, (∃ set, ofBundle environment bundle = .ok set) ↔
      ∀ name template, bundle.templates.get? name = some template → template.Sound) ∧
    (∀ bundle failure, ofBundle environment bundle = .error failure ↔
      FirstFault bundle.templates failure) ∧
    (∀ bundle set, ofBundle environment bundle = .ok set →
      ∀ name template, set.get? name = some template → template.Sound ∧
        ∀ role data answer, produce set.lookup name role data = answer ↔
          template.Outcome environment name data answer) ∧
    ∀ name source minified template, Template.ofSource name source minified = .ok template →
      template.literals.length = template.expressions.length + 1 ∧
        ∀ other problem, template.validate other ≠ .error (.bundle problem) := by
  refine ⟨fun bundle => exists_ofBundle_iff, fun bundle failure => ofBundle_eq_error_iff, ?_, ?_⟩
  · intro bundle set loaded name template found
    exact ⟨sound_of_ofBundle loaded found, produce_eq_iff loaded found⟩
  · intro name source minified template compiled
    have count := Template.count_ofSource compiled
    exact ⟨count, Template.validate_ne_of_count count⟩

/-- A template whose second expression has a value for numbers only. -/
def totalled : Template := ⟨["<p>", ": ", "</p>"], ["title", "1 + count"]⟩

def totalledSet : TemplateSet := ⟨.plain, false, .ofList [("page", totalled)]⟩

def totalledData (count : Data) : Expr.Value :=
  .ofData (.ofEntries [("title", .string "Total"), ("count", count)])

theorem ofBundle_exact_totalled :
    ofBundle .plain totalledSet.toBundle = .ok totalledSet ∧
      totalled.Outcome .plain "page" (totalledData (.int 2))
        (.ok [.static "<p>", .dynamic (some "Total"), .static ": ", .dynamic (some "3"), .static "</p>"]) ∧
      totalled.Outcome .plain "page" (totalledData (.string "two"))
        (.error (.expression "page" .invalidOperation)) ∧
      Template.ofSource "page" "<p>${title}: ${1 + count}</p>" false = .ok totalled ∧
      totalled.literals.length = totalled.expressions.length + 1 := by
  have loaded : ofBundle .plain totalledSet.toBundle = .ok totalledSet := by with_unfolding_all rfl
  have compiled : Template.ofSource "page" "<p>${title}: ${1 + count}</p>" false =
      .ok totalled := by with_unfolding_all rfl
  obtain ⟨-, -, produces, counts⟩ := ofBundle_exact .plain
  obtain ⟨-, outcome⟩ := produces totalledSet.toBundle totalledSet loaded "page" totalled rfl
  refine ⟨loaded, ?_, ?_, compiled, (counts "page" _ false totalled compiled).1⟩
  · exact (outcome .template _ _).mp (by decide +kernel)
  · exact (outcome .template _ _).mp (by decide +kernel)

end TemplateSet

end BlockTemplates
