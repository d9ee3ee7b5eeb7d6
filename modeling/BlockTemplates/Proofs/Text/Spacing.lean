import BlockTemplates.Minify
import Mathlib.Data.List.Forall2

/-! Texts up to their blanks: two texts are respaced when they are the same once all blanks are
deleted from both. Main statement: `respaced_minify`, minified literals are the literals respaced. -/

namespace BlockTemplates

namespace Text

def ink (s : List Char) : List Char := s.filter (!isBlank ·)

/-- The texts are the same once all blanks are deleted from both. -/
def Respaced (first second : String) : Prop := ink first.toList = ink second.toList

theorem Respaced.refl (text : String) : Respaced text text := rfl

theorem Respaced.trans {first second third : String} (same : Respaced first second)
    (same' : Respaced second third) : Respaced first third := Eq.trans same same'

theorem ink_append (first second : List Char) : ink (first ++ second) = ink first ++ ink second :=
  List.filter_append _ _

theorem Respaced.append {first first' second second' : String} (same : Respaced first first')
    (same' : Respaced second second') : Respaced (first ++ second) (first' ++ second') := by
  unfold Respaced at *
  rw [String.toList_append, String.toList_append, ink_append, ink_append, same, same']

theorem ink_of_blank {s : List Char} (blank : ∀ c ∈ s, isBlank c = true) : ink s = [] := by
  apply List.filter_eq_nil_iff.mpr
  intro c member
  simp [blank c member]

theorem ink_trimStart (s : List Char) : ink (trimStart s) = ink s := by
  have whole := congrArg ink (List.takeWhile_append_dropWhile (p := isBlank) (l := s))
  have blank : ink (s.takeWhile isBlank) = [] := ink_of_blank (List.all_eq_true.mp List.all_takeWhile)
  rwa [ink_append, blank, List.nil_append] at whole

theorem ink_trimEnd (s : List Char) : ink (trimEnd s) = ink s := by
  have same := ink_trimStart s.reverse
  unfold ink at *
  rw [trimEnd_eq, List.filter_reverse, same, List.filter_reverse, List.reverse_reverse]

end Text

open Text (Respaced ink)

theorem ink_collapseFrom (gap : Bool) (s : List Char) : ink (collapseFrom gap s) = ink s := by
  induction s generalizing gap with
  | nil => rfl
  | cons c rest ih =>
    have kept (gap : Bool) : ink (c :: collapseFrom gap rest) = ink (c :: rest) := by
      unfold ink at *
      rw [List.filter_cons, List.filter_cons, ih]
    unfold collapseFrom
    split
    · exact kept true
    · split
      · next dropped =>
        split
        · have blank : Text.isBlank c = true := (Bool.and_eq_true_iff.mp dropped).2
          rw [ih]
          simp [ink, blank]
        · exact kept true
      · exact kept false

theorem respaced_collapse (text : String) : Respaced (collapse text) text := by
  unfold Respaced collapse
  rw [String.toList_ofList, ink_collapseFrom]

section Change

variable {change : String → String} {texts texts' : List String}

theorem respaced_modifyHead (respaced : ∀ text, Respaced (change text) text)
    (same : List.Forall₂ Respaced texts texts') : List.Forall₂ Respaced (texts.modifyHead change) texts' := by
  cases same with
  | nil => exact .nil
  | cons head tail => exact .cons ((respaced _).trans head) tail

theorem respaced_modifyLast (respaced : ∀ text, Respaced (change text) text)
    (same : List.Forall₂ Respaced texts texts') : List.Forall₂ Respaced (modifyLast change texts) texts' := by
  induction same with
  | nil => exact .nil
  | cons head tail ih =>
    cases tail with
    | nil => exact .cons ((respaced _).trans head) .nil
    | cons => exact .cons head ih

end Change

theorem respaced_minify (literals : List String) : List.Forall₂ Respaced (minify literals) literals := by
  have collapsed : List.Forall₂ Respaced (literals.map collapse) literals := by
    rw [List.forall₂_map_left_iff, List.forall₂_same]
    intro text _
    exact respaced_collapse text
  have start (text : String) : Respaced (String.ofList (Text.trimStart text.toList)) text := by
    rw [Respaced, String.toList_ofList, Text.ink_trimStart]
  have stop (text : String) : Respaced (String.ofList (Text.trimEnd text.toList)) text := by
    rw [Respaced, String.toList_ofList, Text.ink_trimEnd]
  exact respaced_modifyLast stop (respaced_modifyHead start collapsed)

end BlockTemplates
