import BlockTemplates.Proofs.Compose.Production
import BlockTemplates.Proofs.Source.Quoted
import BlockTemplates.Proofs.Template.Validation

/-! The base that a template declares and the base that its page extends, when every expression is
one string. Main statement: `declaredBase?_eq_iff`, which says when the two are the same. -/

namespace BlockTemplates

open Source (commonEscapes score total)

namespace Directive

theorem total_trim (text : List Char) : total (Text.trim text) = total text := by
  obtain ⟨before, after, same, blank, blank'⟩ := Text.eq_trim_append text
  have whole := congrArg total same
  rw [Source.total_append, Source.total_append, Source.total_eq_zero blank,
    Source.total_eq_zero blank'] at whole
  omega

theorem total_trimStart (text : List Char) : total (Text.trimStart text) = total text := by
  have whole := congrArg total (List.takeWhile_append_dropWhile (p := Text.isBlank) (l := text))
  rw [Source.total_append, Source.total_eq_zero (List.all_eq_true.mp List.all_takeWhile)] at whole
  rw [← whole, Int.zero_add, Text.trimStart]

theorem score_of_isWordChar {c : Char} (word : isWordChar c = true) : score c = 1 := by
  simp only [isWordChar, Bool.or_eq_true, decide_eq_true_eq] at word
  rcases word with word | rfl
  · exact Source.score_of_isAlphanum word
  · rfl

theorem total_of_body? {value body : List Char} (found : body? value = some body) :
    total value = 4 + total body := by
  obtain ⟨opened, start, rest⟩ := Option.bind_eq_some_iff.mp found
  obtain ⟨inner, stop, same⟩ := Option.bind_eq_some_iff.mp rest
  obtain rfl := Option.some.inj same
  rw [total_trim, ← total_trim value, Text.stripStart?_eq_some_iff.mp start,
    Text.stripEnd?_eq_some_iff.mp stop, Source.total_append, Source.total_append]
  have braces : total ['{', '{'] = 2 ∧ total ['}', '}'] = 2 := ⟨rfl, rfl⟩
  omega

theorem total_of_baseOf? {body base : List Char} (found : baseOf? body = some base) :
    total body = 6 + base.length := by
  obtain ⟨rest, word, found'⟩ := Option.bind_eq_some_iff.mp found
  dsimp only at found'
  split at found'
  · cases found'
  · next named =>
    obtain rfl := Option.some.inj found'
    have identifier : isIdentifier (Text.trimStart rest) = true := by
      simp_all
    have letters : ∀ c ∈ Text.trimStart rest, score c = 1 := fun c member =>
      score_of_isWordChar (List.all_eq_true.mp (Bool.and_eq_true_iff.mp identifier).2 c member)
    have first : total extendWord = 6 := rfl
    rw [Text.stripStart?_eq_some_iff.mp word, Source.total_append, first, ← total_trimStart,
      Source.total_eq_length letters]

theorem total_of_recognize? {value base : String} (marker : recognize? value = some (.extend base)) :
    total value.toList = 10 + base.toList.length := by
  obtain ⟨body, found, rest⟩ := Option.bind_eq_some_iff.mp marker
  have named : baseOf? body = some base.toList := by
    split at rest
    · cases rest
    · split at rest
      · split at rest <;> cases rest
      · obtain ⟨chars, found', same⟩ := Option.map_eq_some_iff.mp rest
        obtain rfl := Directive.extend.inj same
        rw [found', String.toList_ofList]
  rw [total_of_body? found, total_of_baseOf? named]
  omega

end Directive

namespace Template

/-- The base that an expression names when it is one string whose text spells an extend marker. -/
def spelledBase? (expression : String) : Option String :=
  ((Expr.literal? expression).bind Directive.recognize?).bind Directive.extendTarget?

/-- Both readings of string expressions find the same base first. In the first expression that
either reading takes for an extend marker all escapes are common ones; or else only one reading
takes it for a marker, and the other one finds the same base later. -/
def SameBase : List String → Prop
  | [] => True
  | expression :: rest =>
    if baseOf? expression = none ∧ spelledBase? expression = none then SameBase rest
    else
      commonEscapes expression.toList = true ∨
      (baseOf? expression = none ∧ rest.findSome? baseOf? = spelledBase? expression) ∨
      (spelledBase? expression = none ∧ rest.findSome? spelledBase? = baseOf? expression)

instance decidableSameBase : (expressions : List String) → Decidable (SameBase expressions)
  | [] => .isTrue trivial
  | expression :: rest =>
    have := decidableSameBase rest
    inferInstanceAs (Decidable (if baseOf? expression = none ∧ spelledBase? expression = none then
      SameBase rest else _))

theorem extendTarget?_eq_some {text base : String}
    (named : (Directive.recognize? text).bind Directive.extendTarget? = some base) :
    Directive.recognize? text = some (.extend base) := by
  obtain ⟨marker, found, target⟩ := Option.bind_eq_some_iff.mp named
  cases marker with
  | extend other => rw [found, Option.some.inj target]
  | blockStart => cases target
  | blockEnd => cases target

/-- The readings of one string name the same base if its escapes are common ones, and else only if
neither names any. -/
theorem baseOf?_eq_iff {expression : String} (string : (Expr.literal? expression).isSome) :
    baseOf? expression = spelledBase? expression ↔
      commonEscapes expression.toList = true ∨
        baseOf? expression = none ∧ spelledBase? expression = none := by
  obtain ⟨text, literal⟩ := Option.isSome_iff_exists.mp string
  obtain ⟨static, read, same⟩ := Source.unquote?_of_literal? literal
  constructor
  · intro agree
    rcases same with ⟨-, common⟩ | ⟨heavier, -⟩
    · exact .inl common
    · cases named : baseOf? expression with
      | none => exact .inr ⟨rfl, by rw [← agree, named]⟩
      | some base =>
        rw [named] at agree
        have first : Directive.recognize? static = some (.extend base) := by
          rw [baseOf?, read] at named
          exact extendTarget?_eq_some named
        have second : Directive.recognize? text = some (.extend base) := by
          rw [spelledBase?, literal] at agree
          exact extendTarget?_eq_some agree.symm
        -- Two markers with one base score the same, so that no uncommon escape stands in the string.
        have total := Directive.total_of_recognize? first
        have total' := Directive.total_of_recognize? second
        omega
  · rintro (common | ⟨first, second⟩)
    · rcases same with ⟨rfl, -⟩ | ⟨-, other⟩
      · rw [baseOf?, spelledBase?, read, literal]
      · exact absurd common (by simp [other])
    · rw [first, second]

theorem findSome?_eq_iff {expressions : List String}
    (strings : ∀ expression ∈ expressions, (Expr.literal? expression).isSome) :
    expressions.findSome? baseOf? = expressions.findSome? spelledBase? ↔ SameBase expressions := by
  induction expressions with
  | nil => simp [SameBase]
  | cons expression rest ih =>
    rw [List.forall_mem_cons] at strings
    have agree := baseOf?_eq_iff strings.1
    rw [List.findSome?_cons, List.findSome?_cons, SameBase]
    cases named : baseOf? expression with
    | none =>
      cases spelled : spelledBase? expression with
      | none => simpa using ih strings.2
      | some base =>
        rw [named, spelled] at agree
        have other : commonEscapes expression.toList ≠ true := fun common =>
          absurd (agree.mpr (.inl common)) (by simp)
        simp [other]
    | some base =>
      cases spelled : spelledBase? expression with
      | none =>
        rw [named, spelled] at agree
        have other : commonEscapes expression.toList ≠ true := fun common =>
          absurd (agree.mpr (.inl common)) (by simp)
        simp [other, eq_comm]
      | some base' =>
        rw [named, spelled] at agree
        simpa using agree

theorem extendTarget?_literals (expressions : List String) :
    extendTarget? (expressions.map fun e => .dynamic (Expr.literal? e)) =
      expressions.findSome? spelledBase? := by
  rw [extendTarget?, List.findSome?_map]
  congr
  funext expression
  change (Directive.recognize? ((Expr.literal? expression).getD "")).bind _ = _
  rw [spelledBase?]
  cases Expr.literal? expression <;> rfl

/-- In a loaded set the page of a template whose expressions are all strings is produced for all
data, and it extends the base that the template declares exactly when both readings of the strings
find the same base first. -/
theorem declaredBase?_eq_iff {environment : Expr.Environment} {bundle : Bundle} {set : TemplateSet}
    {name : String} {template : Template} (loaded : TemplateSet.ofBundle environment bundle = .ok set)
    (found : set.get? name = some template)
    (strings : ∀ expression ∈ template.expressions, (Expr.literal? expression).isSome)
    (data : Expr.Value) :
    ∃ page, BlockTemplates.produce set.lookup name .template data = .ok page ∧
      (set.declaredBase? name = extendTarget? page ↔ SameBase template.expressions) := by
  have count := (TemplateSet.sound_of_ofBundle loaded found).count
  have valued : ∀ expression ∈ template.expressions,
      expressionText set.environment name data expression = .ok (Expr.literal? expression) := by
    intro expression member
    obtain ⟨text, literal⟩ := Option.isSome_iff_exists.mp (strings expression member)
    rw [expressionText, Expr.evaluate_literal literal, literal]
    rfl
  obtain ⟨page, produced, target⟩ := extendTarget?_produce valued count
  refine ⟨page, ?_, ?_⟩
  · rw [BlockTemplates.produce, TemplateSet.lookup, found]
    exact produced
  · rw [target, extendTarget?_literals, TemplateSet.declaredBase?, found, Option.bind_some,
      declaredBase?]
    exact findSome?_eq_iff strings

def loneSet (expression : String) : TemplateSet :=
  ⟨.plain, false, [("page", ⟨["", ""], [expression]⟩)], List.pairwise_singleton _ _⟩

def escapedMarker (escape : Char) : String :=
  String.ofList ("'\x7b\x7b\\".toList ++ escape :: "extend base \x7d\x7d'".toList)

theorem declaredBase?_eq_of_tab :
    ∃ page, BlockTemplates.produce (loneSet (escapedMarker 't')).lookup "page" .template .undefined =
        .ok page ∧
      (loneSet (escapedMarker 't')).declaredBase? "page" = extendTarget? page := by
  have loaded : TemplateSet.ofBundle .plain (loneSet (escapedMarker 't')).toBundle =
      .ok (loneSet (escapedMarker 't')) := by
    with_unfolding_all rfl
  have found : (loneSet (escapedMarker 't')).get? "page" =
      some ⟨["", ""], [escapedMarker 't']⟩ := rfl
  obtain ⟨page, produced, same⟩ := declaredBase?_eq_iff loaded found (by decide +kernel) .undefined
  exact ⟨page, produced, same.mpr (by decide +kernel)⟩

/-- A carriage return is an escape of the language, so that the page extends a base that the
template does not declare. -/
theorem declaredBase?_ne_of_carriageReturn :
    TemplateSet.ofBundle .plain (loneSet (escapedMarker 'r')).toBundle =
        .ok (loneSet (escapedMarker 'r')) ∧
      (Expr.literal? (escapedMarker 'r')).isSome ∧
      (loneSet (escapedMarker 'r')).declaredBase? "page" = none ∧
      ∃ page, BlockTemplates.produce (loneSet (escapedMarker 'r')).lookup "page" .template .undefined =
          .ok page ∧
        extendTarget? page = some "base" := by
  refine ⟨?_, by decide +kernel, by decide +kernel,
    [.static "", .dynamic (some "\x7b\x7b\rextend base \x7d\x7d"), .static ""], ?_, ?_⟩
  · with_unfolding_all rfl
  · with_unfolding_all rfl
  · decide +kernel

end Template

end BlockTemplates
