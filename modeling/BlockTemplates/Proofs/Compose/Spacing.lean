import BlockTemplates.Compose.Render
import BlockTemplates.Proofs.Parallel
import BlockTemplates.Proofs.Text.Spacing

/-! Pages whose literal text is respaced and whose evaluated text is the same. Both walks take them
to pages and blocks that are respaced again, with the same names of blocks, so that whole renders
answer respaced texts. Main statement: `respaced_render`. -/

namespace BlockTemplates

open SegmentSequence (flatten)

/-- The segments are both literal with respaced text, or are the same evaluated text. -/
inductive Segment.Respaced : Segment → Segment → Prop
  | static {first second : String} (same : Text.Respaced first second) :
      Respaced (.static first) (.static second)
  | dynamic (value : String) : Respaced ⟨.dynamic, value⟩ ⟨.dynamic, value⟩

theorem Segment.Respaced.directive? {first second : Segment} (same : Respaced first second) :
    first.directive? = second.directive? := by
  cases same <;> rfl

theorem Segment.Respaced.value {first second : Segment} (same : Respaced first second) :
    Text.Respaced first.value second.value := by
  cases same with
  | static same => exact same
  | dynamic value => exact .refl value

namespace SegmentSequence

inductive Part.Respaced : Part → Part → Prop
  | literal {first second : String} (same : Text.Respaced first second) :
      Respaced (.literal first) (.literal second)
  | value (value : Option String) : Respaced (.value value) (.value value)

def Respaced (first second : SegmentSequence) : Prop := List.Forall₂ Segment.Respaced first second

variable {first second : SegmentSequence}

theorem Respaced.appendLiteral (same : Respaced first second) {text text' : String}
    (respaced : Text.Respaced text text') :
    Respaced (appendLiteral first text) (appendLiteral second text') := by
  induction same with
  | nil => exact .cons (.static respaced) .nil
  | cons head tail ih =>
    cases tail with
    | nil =>
      cases head with
      | static same => exact .cons (.static (same.append respaced)) .nil
      | dynamic value => exact .cons (.dynamic value) (.cons (.static respaced) .nil)
    | cons => exact .cons head ih

theorem Respaced.closeStatic (same : Respaced first second) :
    Respaced (closeStatic first) (closeStatic second) := by
  induction same with
  | nil => exact .cons (.static (.refl "")) .nil
  | cons head tail ih =>
    cases tail with
    | nil =>
      cases head with
      | static same => exact .cons (.static same) .nil
      | dynamic value => exact .cons (.dynamic value) (.cons (.static (.refl "")) .nil)
    | cons => exact .cons head ih

theorem Respaced.append (same : Respaced first second) {part part' : Part}
    (respaced : part.Respaced part') : Respaced (append first part) (append second part') := by
  cases respaced with
  | literal respaced => exact same.appendLiteral respaced
  | value value => exact List.rel_append same.closeStatic (.cons (.dynamic (value.getD "")) .nil)

theorem Respaced.foldl {parts parts' : List Part} (respaced : List.Forall₂ Part.Respaced parts parts')
    (same : Respaced first second) :
    Respaced (parts.foldl SegmentSequence.append first) (parts'.foldl SegmentSequence.append second) := by
  induction respaced generalizing first second with
  | nil => exact same
  | cons head _ ih => exact ih (same.append head)

theorem Respaced.build {parts parts' : List Part} (respaced : List.Forall₂ Part.Respaced parts parts') :
    Respaced (build parts) (build parts') :=
  (Respaced.foldl respaced .nil).closeStatic

theorem Respaced.dynamic (same : Respaced first second) :
    first.filter Segment.isDynamic = second.filter Segment.isDynamic := by
  induction same with
  | nil => rfl
  | cons head _ ih =>
    cases head with
    | static => exact ih
    | dynamic value => exact congrArg (_ :: ·) ih

theorem Respaced.extendTarget? (same : Respaced first second) :
    extendTarget? first = extendTarget? second := by
  induction same with
  | nil => rfl
  | cons head _ ih =>
    unfold BlockTemplates.extendTarget? at *
    rw [List.findSome?_cons, List.findSome?_cons, head.directive?, ih]

theorem Respaced.flatten_stripBlockMarkers (same : Respaced first second) :
    Text.Respaced (flatten (stripBlockMarkers first)) (flatten (stripBlockMarkers second)) := by
  induction same with
  | nil => exact .refl _
  | cons head _ ih =>
    unfold stripBlockMarkers at *
    rw [List.map_cons, List.map_cons, flatten_cons, flatten_cons, head.directive?]
    refine Text.Respaced.append ?_ ih
    split
    · exact .refl _
    · exact head.value

end SegmentSequence

open SegmentSequence (Respaced)

def OpenBlock.Respaced (first second : OpenBlock) : Prop :=
  first.name = second.name ∧ Text.Respaced first.content second.content

section Walks

variable {blocks blocks' : BlockMap} {first second : SegmentSequence}

theorem OpenBlock.Respaced.collect {opened opened' : Option OpenBlock}
    (same : Option.Rel OpenBlock.Respaced opened opened') {text text' : String}
    (respaced : Text.Respaced text text') :
    Option.Rel OpenBlock.Respaced (OpenBlock.collect text opened) (OpenBlock.collect text' opened') := by
  cases same with
  | none => exact .none
  | some same => exact .some ⟨same.1, same.2.append respaced⟩

theorem OpenBlock.Respaced.commit {opened opened' : Option OpenBlock}
    (same : Option.Rel OpenBlock.Respaced opened opened') (held : Dict.Rel Text.Respaced blocks blocks') :
    Dict.Rel Text.Respaced (OpenBlock.commit blocks opened) (OpenBlock.commit blocks' opened') := by
  cases same with
  | none => exact held
  | some same =>
    unfold OpenBlock.commit
    dsimp only
    rw [same.1]
    exact held.insert _ same.2

/-- By induction on the pages; the blocks collected so far and the open block stay respaced. -/
theorem respaced_extractFrom (same : Respaced first second) (held : Dict.Rel Text.Respaced blocks blocks')
    {opened opened' : Option OpenBlock} (open_ : Option.Rel OpenBlock.Respaced opened opened') :
    Dict.Rel Text.Respaced (extractFrom blocks opened first).blocks
      (extractFrom blocks' opened' second).blocks := by
  induction same generalizing blocks blocks' opened opened' with
  | nil => exact held
  | cons head _ ih =>
    unfold extractFrom
    rw [head.directive?]
    split
    · exact ih (OpenBlock.Respaced.commit open_ held) .none
    · exact ih held (.some ⟨rfl, .refl _⟩)
    · exact ih held (OpenBlock.Respaced.collect open_ head.value)

theorem respaced_extractBlocks (same : Respaced first second) :
    Dict.Rel Text.Respaced (extractBlocks first).blocks (extractBlocks second).blocks :=
  respaced_extractFrom same .empty .none

/-- Both walks suppress the same segments, and put respaced blocks in the same places. -/
theorem respaced_replaceFrom (same : Respaced first second) (held : Dict.Rel Text.Respaced blocks blocks')
    (suppressing : Bool) :
    Text.Respaced (flatten (replaceFrom blocks suppressing first).sequence)
      (flatten (replaceFrom blocks' suppressing second).sequence) := by
  induction same generalizing suppressing with
  | nil => exact .refl _
  | @cons segment segment' rest rest' head _ ih =>
    have erased (next : Bool) :
        Text.Respaced (flatten ((replaceFrom blocks next rest).keep segment.zero).sequence)
          (flatten ((replaceFrom blocks' next rest').keep segment'.zero).sequence) := by
      unfold Replacement.keep
      rw [SegmentSequence.flatten_cons, SegmentSequence.flatten_cons]
      exact Text.Respaced.append (.refl _) (ih next)
    unfold replaceFrom
    rw [head.directive?]
    split
    · exact erased _
    · split
      · next name _ =>
        have given := held.get? name
        generalize blocks.get? name = content?, blocks'.get? name = content?' at given ⊢
        cases given with
        | none => exact erased false
        | some respaced =>
          unfold Replacement.keep
          dsimp only
          rw [SegmentSequence.flatten_cons, SegmentSequence.flatten_cons]
          exact Text.Respaced.append respaced (ih true)
      · exact erased false
      · unfold Replacement.keep
        rw [SegmentSequence.flatten_cons, SegmentSequence.flatten_cons]
        exact head.value.append (ih false)

end Walks

section Render

variable {δ : Type} {data : δ} {lookup lookup' : Lookup δ}

/-- If the pages of all names are respaced or fail together, so do the renders. -/
theorem respaced_render (pages : ∀ name role,
      Result.Rel Respaced (produce lookup name role data) (produce lookup' name role data))
    (name : String) :
    Result.Rel Text.Respaced (render lookup name data).result (render lookup' name data).result := by
  rw [result_render, result_render]
  apply (pages name .template).bind
  intro page page' same
  rw [same.extendTarget?]
  cases extendTarget? page' with
  | none => exact .done same.flatten_stripBlockMarkers
  | some base =>
    apply (pages base .extendTarget).bind
    intro under under' below
    exact .done (respaced_replaceFrom below (respaced_extractBlocks same) false)

end Render

end BlockTemplates
