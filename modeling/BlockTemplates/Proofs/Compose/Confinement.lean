import BlockTemplates.Proofs.Compose.Inheritance

/-! What a render depends on. It looks at the page of its name and at the page that this one
extends, and at no other; and of a page that extends another one it sees only which one that is and
the blocks collected from it. Main statement: `render_confined`. -/

namespace BlockTemplates

open SegmentSequence (flatten)

section Confinement

variable {δ : Type} {data : δ} {first second : Lookup δ} {name base : String}

/-- Two lookups agree on a name for some data: both miss it, or its producers give the same page or
the same failure. -/
def AgreeAt (data : δ) (first second : Lookup δ) (name : String) : Prop :=
  (first name).map (· data) = (second name).map (· data)

theorem produce_of_agreeAt (agree : AgreeAt data first second name) (role : TemplateRole) :
    produce first name role data = produce second name role data := by
  unfold AgreeAt at agree
  unfold produce
  cases found : first name with
  | none =>
    rw [found, Option.map_none] at agree
    rw [Option.map_eq_none_iff.mp agree.symm]
  | some producer =>
    rw [found, Option.map_some] at agree
    obtain ⟨other, found', same⟩ := Option.map_eq_some_iff.mp agree.symm
    rw [found']
    exact same.symm

theorem extendPage_of_agreeAt (agree : AgreeAt data first second base) (child : SegmentSequence) :
    extendPage first data child base = extendPage second data child base := by
  rw [extendPage, extendPage, produce_of_agreeAt agree]

/-- Agreement on a page and on the one that it extends is all that a render and its reports need. -/
theorem render_eq_of_agreeAt (agree : AgreeAt data first second name)
    (agree' : ∀ page base, produce first name .template data = .ok page → Extends page base →
      AgreeAt data first second base) :
    render first name data = render second name data := by
  have same := produce_of_agreeAt agree .template
  unfold render
  rw [← same]
  cases produced : produce first name .template data with
  | error failure => rfl
  | ok page =>
    dsimp only
    cases target : extendTarget? page with
    | none => rfl
    | some base =>
      have extended := extendTarget?_eq_some_iff.mp target
      dsimp only
      rw [extendPage_of_agreeAt (agree' page base produced extended)]

theorem result_render_extends {lookup : Lookup δ} {page : SegmentSequence}
    (produced : produce lookup name .template data = .ok page) (extended : Extends page base) :
    (render lookup name data).result =
      (produce lookup base .extendTarget data).map fun under =>
        flatten (replaceBlocks (extractBlocks page).blocks under).sequence := by
  have target := extendTarget?_eq_some_iff.mpr extended
  rw [result_render, produced]
  simp only [bind, Except.bind, target]
  cases produce lookup base .extendTarget data <;> rfl

theorem result_render_eq {page page' : SegmentSequence}
    (produced : produce first name .template data = .ok page)
    (produced' : produce second name .template data = .ok page')
    (extended : Extends page base) (extended' : Extends page' base)
    (agree : AgreeAt data first second base)
    (blocks : (extractBlocks page).blocks = (extractBlocks page').blocks) :
    (render first name data).result = (render second name data).result := by
  rw [result_render_extends produced extended, result_render_extends produced' extended',
    produce_of_agreeAt agree, blocks]

end Confinement

/-- A render is the same for two lookups that agree on its name and on the page that the page of
this name extends, whatever else they hold. And it answers the same when they differ only in the
page of its name, if both of these pages extend the same other page and have the same blocks. -/
theorem render_confined {δ : Type} (data : δ) (name : String) (first second : Lookup δ) :
    (AgreeAt data first second name →
      (∀ page base, produce first name .template data = .ok page → Extends page base →
        AgreeAt data first second base) →
      render first name data = render second name data) ∧
    ∀ page page' base, (∀ other, other ≠ name → AgreeAt data first second other) →
      produce first name .template data = .ok page →
      produce second name .template data = .ok page' →
      Extends page base → Extends page' base → base ≠ name →
      (extractBlocks page).blocks = (extractBlocks page').blocks →
      (render first name data).result = (render second name data).result := by
  constructor
  · intro agree agree'
    exact render_eq_of_agreeAt agree agree'
  · intro page page' base others produced produced' extended extended' apart blocks
    exact result_render_eq produced produced' extended extended' (others base apart) blocks

/-- A page with one block and some text outside of it, which extends `base`. -/
def homePage (outside : String) : SegmentSequence :=
  [.dynamic (some "\x7b\x7b extend base \x7d\x7d"), .static outside,
    .dynamic (some "\x7b\x7b title \x7d\x7d"), .static "Home", .dynamic (some "\x7b\x7b end \x7d\x7d")]

def basePage : SegmentSequence :=
  [.dynamic (some "\x7b\x7b extend root \x7d\x7d"), .static "<h1>",
    .dynamic (some "\x7b\x7b title \x7d\x7d"), .static "None", .dynamic (some "\x7b\x7b end \x7d\x7d")]

def siteOf (outside : String) (root : Option (Producer Unit)) : Lookup Unit := fun name =>
  if name = "home" then some fun _ => .ok (homePage outside)
  else if name = "base" then some fun _ => .ok basePage
  else if name = "root" then root
  else none

theorem render_confined_siteOf :
    render (siteOf "one" none) "home" () =
        render (siteOf "one" (some fun _ => .error (.unsupportedFormat "none"))) "home" () ∧
      (render (siteOf "one" none) "home" ()).result = (render (siteOf "two" none) "home" ()).result := by
  have target (outside : String) : Extends (homePage outside) "base" :=
    extendTarget?_eq_some_iff.mp rfl
  constructor
  · refine (render_confined () "home" _ _).1 rfl ?_
    intro page base produced extended
    obtain rfl : homePage "one" = page := Except.ok.inj produced
    have named := extendTarget?_eq_some_iff.mpr extended
    obtain rfl : "base" = base := Option.some.inj named
    rfl
  · refine (render_confined () "home" _ _).2 (homePage "one") (homePage "two") "base" ?_ rfl rfl
      (target "one") (target "two") (by decide) rfl
    intro other apart
    simp only [AgreeAt, siteOf, if_neg apart]

end BlockTemplates
