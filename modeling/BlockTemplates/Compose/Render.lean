import BlockTemplates.Compose.Block
import BlockTemplates.Failure
import BlockTemplates.Text.Quoted

/-! Rendering. A page without an extend marker is its text without block markers. A page that
extends a base gives only its blocks: the base is produced with the same data, the blocks are put
into it and its text is the answer. Only one step of inheritance is taken. -/

namespace BlockTemplates

abbrev Producer (δ : Type) := δ → Result SegmentSequence

abbrev Lookup (δ : Type) := String → Option (Producer δ)

abbrev Registry (δ : Type) := Dict (Producer δ)

def Registry.describe {δ : Type} (registry : Registry δ) : String :=
  "Registry \x7b templates: [" ++ ", ".intercalate (registry.keys.map Text.quoted) ++ "] \x7d"

/-- The answer of a render and what it reported on the way. -/
structure Rendered where
  result : Result String
  events : List Event

namespace Rendered

def report (events : List Event) (rest : Rendered) : Rendered :=
  { rest with events := events ++ rest.events }

end Rendered

def produce {δ : Type} (lookup : Lookup δ) (name : String) (role : TemplateRole) (data : δ) :
    Result SegmentSequence :=
  match lookup name with
  | none => .error (.templateNotFound name role)
  | some producer => producer data

def flattenPage (page : SegmentSequence) : Rendered :=
  ⟨.ok (SegmentSequence.flatten (stripBlockMarkers page)), [.reached .flatten, .reached .done]⟩

def extendPage {δ : Type} (lookup : Lookup δ) (data : δ) (child : SegmentSequence)
    (base : String) : Rendered :=
  let extraction := extractBlocks child
  let rendered : Rendered :=
    match produce lookup base .extendTarget data with
    | .error failure => ⟨.error failure, []⟩
    | .ok page =>
      let replacement := replaceBlocks extraction.blocks page
      ⟨.ok (SegmentSequence.flatten replacement.sequence), replacement.events ++ [.reached .done]⟩
  rendered.report (.reached .extendResolve :: .inherits base :: extraction.events)

def render {δ : Type} (lookup : Lookup δ) (name : String) (data : δ) : Rendered :=
  match produce lookup name .template data with
  | .error failure => ⟨.error failure, []⟩
  | .ok page =>
    let rendered := match extendTarget? page with
      | none => flattenPage page
      | some base => extendPage lookup data page base
    rendered.report [.reached .directiveScan]

theorem result_render {δ : Type} (lookup : Lookup δ) (name : String) (data : δ) :
    (render lookup name data).result = produce lookup name .template data >>= fun page =>
      match extendTarget? page with
      | none => .ok (SegmentSequence.flatten (stripBlockMarkers page))
      | some base => produce lookup base .extendTarget data >>= fun under =>
        .ok (SegmentSequence.flatten (replaceBlocks (extractBlocks page).blocks under).sequence) := by
  unfold render
  cases produce lookup name .template data with
  | error failure => rfl
  | ok page =>
    cases target : extendTarget? page with
    | none => simp [bind, Except.bind, target, Rendered.report, flattenPage]
    | some base =>
      unfold extendPage
      cases made : produce lookup base .extendTarget data <;>
        simp [bind, Except.bind, target, made, Rendered.report]

end BlockTemplates
