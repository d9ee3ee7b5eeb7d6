import BlockTemplates.Proofs.Dict
import BlockTemplates.Proofs.Result
import BlockTemplates.TemplateSet

/-! What loading checks. A template is sound when its literals fit around its expressions and each of
these can be read; a set is loaded when all of its templates are sound, and otherwise the first fault in
the order of names is reported. Main statements: `ofBundle_eq_ok_iff` and `ofBundle_eq_error_iff`. -/

namespace BlockTemplates

namespace Template

/-- The literals fit around the expressions, and each of these can be read. -/
structure Sound (template : Template) : Prop where
  count : template.literals.length = template.expressions.length + 1
  readable : ∀ expression ∈ template.expressions, ∃ read, Expr.compile expression = .ok read

/-- What is reported of a template that is not sound: that its literals do not fit, or else the first
expression that cannot be read. -/
inductive Fault (name : String) (template : Template) : Failure → Prop
  | chunks (misfit : template.literals.length ≠ template.expressions.length + 1) :
      Fault name template
        (.bundle (.chunkCount name template.literals.length template.expressions.length))
  | unreadable {before after : List String} {expression : String} {error : Expr.Error}
      (fits : template.literals.length = template.expressions.length + 1)
      (whole : template.expressions = before ++ expression :: after)
      (earlier : ∀ e ∈ before, ∃ read, Expr.compile e = .ok read)
      (fails : Expr.compile expression = .error error) :
      Fault name template (.expression name error)

variable {name : String} {template : Template} {failure : Failure}

theorem exists_ofSource_iff {source : String} {minified : Bool} :
    (∃ template, ofSource name source minified = .ok template) ↔ ∃ parts, Source.split source = .ok parts := by
  unfold ofSource
  cases Source.split source <;> simp

theorem ofSource_eq_error_iff {source : String} {minified : Bool} :
    ofSource name source minified = .error failure ↔
      ∃ opened, Source.split source = .error opened ∧ Failure.templateSyntax name opened = failure := by
  unfold ofSource
  cases Source.split source <;> simp

theorem checkExpression_eq_ok_iff {expression : String} :
    checkExpression name expression = .ok () ↔ ∃ read, Expr.compile expression = .ok read := by
  unfold checkExpression
  cases Expr.compile expression <;> simp

theorem checkExpression_eq_error_iff {expression : String} :
    checkExpression name expression = .error failure ↔
      ∃ error, Expr.compile expression = .error error ∧ Failure.expression name error = failure := by
  unfold checkExpression
  cases Expr.compile expression <;> simp

theorem validate_eq_ok_iff : template.validate name = .ok () ↔ template.Sound := by
  unfold validate
  by_cases fits : template.literals.length = template.expressions.length + 1
  · rw [if_neg (not_not_intro fits), Result.forM_eq_ok_iff]
    simp only [checkExpression_eq_ok_iff]
    exact ⟨fun readable => ⟨fits, readable⟩, fun sound => sound.readable⟩
  · rw [if_pos fits]
    exact iff_of_false (fun valid => nomatch valid) fun sound => fits sound.count

theorem validate_eq_error_iff : template.validate name = .error failure ↔ template.Fault name failure := by
  unfold validate
  by_cases fits : template.literals.length = template.expressions.length + 1
  · rw [if_neg (not_not_intro fits), Result.forM_eq_error_iff]
    simp only [checkExpression_eq_ok_iff, checkExpression_eq_error_iff]
    constructor
    · rintro ⟨before, expression, after, whole, earlier, error, fails, rfl⟩
      exact .unreadable fits whole earlier fails
    · rintro (misfit | ⟨-, whole, earlier, fails⟩)
      · exact absurd fits misfit
      · exact ⟨_, _, _, whole, earlier, _, fails, rfl⟩
  · rw [if_pos fits]
    constructor
    · intro same
      obtain rfl := Except.error.inj same
      exact .chunks fits
    · rintro (- | fits')
      · rfl
      · exact absurd fits' fits

end Template

namespace TemplateSet

/-- The fault of some template that comes after sound ones only, in the order of names. -/
def FirstFault (templates : Dict Template) (failure : Failure) : Prop :=
  ∃ name template, templates.get? name = some template ∧ template.Fault name failure ∧
    ∀ other earlier, other < name → templates.get? other = some earlier → earlier.Sound

variable {environment : Expr.Environment} {bundle : Bundle} {set : TemplateSet} {failure : Failure}

theorem ofBundle_eq_ok_iff :
    ofBundle environment bundle = .ok set ↔
      (∀ entry ∈ bundle.templates.entries, entry.2.validate entry.1 = .ok ()) ∧
        set = ⟨environment, bundle.minified, bundle.templates⟩ := by
  unfold ofBundle
  rw [Result.bind_eq_ok_iff, ← Result.forM_eq_ok_iff]
  constructor
  · rintro ⟨_, checked, same⟩
    exact ⟨checked, (Except.ok.inj same).symm⟩
  · rintro ⟨checked, rfl⟩
    exact ⟨(), checked, rfl⟩

theorem sound_of_ofBundle {name : String} {template : Template} (loaded : ofBundle environment bundle = .ok set)
    (found : set.get? name = some template) : template.Sound := by
  obtain ⟨checked, rfl⟩ := ofBundle_eq_ok_iff.mp loaded
  exact Template.validate_eq_ok_iff.mp (checked (name, template) (Dict.mem_entries_iff.mpr found))

theorem ofBundle_eq_error_iff :
    ofBundle environment bundle = .error failure ↔ FirstFault bundle.templates failure := by
  unfold ofBundle
  rw [Result.bind_eq_error_iff, Result.forM_eq_error_iff]
  simp only [Template.validate_eq_ok_iff, Template.validate_eq_error_iff]
  constructor
  · rintro (⟨before, ⟨name, template⟩, after, whole, earlier, fault⟩ | ⟨_, -, made⟩)
    · have held : (name, template) ∈ bundle.templates.entries := by
        rw [whole]
        exact List.mem_append_right _ List.mem_cons_self
      refine ⟨name, template, Dict.mem_entries_iff.mp held, fault, fun other sound below found => ?_⟩
      have first : (other, sound) ∈ before :=
        (Dict.mem_before_iff whole).mpr ⟨Dict.mem_entries_iff.mpr found, below⟩
      exact earlier _ first
    · cases made
  · rintro ⟨name, template, found, fault, earlier⟩
    have held : (name, template) ∈ bundle.templates.entries := Dict.mem_entries_iff.mpr found
    obtain ⟨before, after, whole⟩ := List.append_of_mem held
    refine .inl ⟨before, (name, template), after, whole, fun entry first => ?_, fault⟩
    obtain ⟨held, below⟩ := (Dict.mem_before_iff whole).mp first
    exact earlier entry.1 entry.2 below (Dict.mem_entries_iff.mp held)

end TemplateSet

end BlockTemplates
