/-! White space and trimming. A character is blank when it has the Unicode property White_Space;
all trimming in this library uses that one class. Main statements: the parts that trimming
removes are blank, and what remains neither starts nor ends with a blank. -/

namespace BlockTemplates.Text

/-- The code points of the Unicode property White_Space. -/
def blankCodes : List Nat :=
  [9, 10, 11, 12, 13, 32, 0x85, 0xA0, 0x1680,
    0x2000, 0x2001, 0x2002, 0x2003, 0x2004, 0x2005, 0x2006, 0x2007, 0x2008, 0x2009, 0x200A,
    0x2028, 0x2029, 0x202F, 0x205F, 0x3000]

def isBlank (c : Char) : Bool := blankCodes.contains c.toNat

def trimStart (s : List Char) : List Char := s.dropWhile isBlank

def trimEnd (s : List Char) : List Char := (s.reverse.dropWhile isBlank).reverse

def trim (s : List Char) : List Char := trimEnd (trimStart s)

def trimString (s : String) : String := String.ofList (trim s.toList)

def stripStart? (head s : List Char) : Option (List Char) :=
  match head, s with
  | [], s => some s
  | _ :: _, [] => none
  | h :: head, c :: s => if h = c then stripStart? head s else none

def stripEnd? (tail s : List Char) : Option (List Char) :=
  (stripStart? tail.reverse s.reverse).map List.reverse

def startsWith (head s : List Char) : Bool := (stripStart? head s).isSome

def Trimmed (s : List Char) : Prop :=
  (∀ c ∈ s.head?, isBlank c = false) ∧ ∀ c ∈ s.getLast?, isBlank c = false

theorem stripStart?_eq_some_iff {head s rest : List Char} :
    stripStart? head s = some rest ↔ s = head ++ rest := by
  induction head generalizing s with
  | nil => simp [stripStart?]
  | cons h head ih =>
    cases s with
    | nil => simp [stripStart?]
    | cons c s =>
      by_cases same : h = c
      · simp [stripStart?, same, ih]
      · simp [stripStart?, same, Ne.symm same]

theorem stripEnd?_eq_some_iff {tail s rest : List Char} :
    stripEnd? tail s = some rest ↔ s = rest ++ tail := by
  simp only [stripEnd?, Option.map_eq_some_iff, stripStart?_eq_some_iff]
  constructor
  · rintro ⟨found, reversed, rfl⟩
    simpa using congrArg List.reverse reversed
  · rintro rfl
    exact ⟨rest.reverse, by simp⟩

theorem isBlank_head?_trimStart (s : List Char) : ∀ c ∈ (trimStart s).head?, isBlank c = false := by
  intro c first
  have dropped := List.head?_dropWhile_not isBlank s
  rw [trimStart, Option.mem_def] at first
  rwa [first] at dropped

theorem trimStart_append {before : List Char} (blank : ∀ c ∈ before, isBlank c = true) (s : List Char) :
    trimStart (before ++ s) = trimStart s :=
  List.dropWhile_append_of_pos blank

theorem trimStart_of_head? {s : List Char} (first : ∀ c ∈ s.head?, isBlank c = false) :
    trimStart s = s := by
  cases s with
  | nil => rfl
  | cons c s => simp [trimStart, first c rfl]

theorem trimEnd_eq (s : List Char) : trimEnd s = (trimStart s.reverse).reverse := rfl

theorem trimStart_eq_trim_append (s : List Char) :
    trimStart s = trim s ++ ((trimStart s).reverse.takeWhile isBlank).reverse := by
  rw [trim, trimEnd_eq, ← List.reverse_append]
  simp [trimStart]

theorem eq_trim_append (s : List Char) : ∃ before after, s = before ++ (trim s ++ after) ∧
    (∀ c ∈ before, isBlank c = true) ∧ ∀ c ∈ after, isBlank c = true := by
  refine ⟨s.takeWhile isBlank, ((trimStart s).reverse.takeWhile isBlank).reverse, ?_, ?_, ?_⟩
  · rw [← trimStart_eq_trim_append, trimStart, List.takeWhile_append_dropWhile]
  · exact List.all_eq_true.mp List.all_takeWhile
  · intro c member
    exact List.all_eq_true.mp List.all_takeWhile c (List.mem_reverse.mp member)

theorem trimmed_trim (s : List Char) : Trimmed (trim s) := by
  constructor
  · intro c first
    apply isBlank_head?_trimStart s
    rw [trimStart_eq_trim_append, List.head?_append, Option.mem_def.mp first]
    rfl
  · intro c last
    rw [trim, trimEnd_eq, List.getLast?_reverse] at last
    exact isBlank_head?_trimStart _ c last

theorem trim_append {before s after : List Char} (blank : ∀ c ∈ before, isBlank c = true)
    (blank' : ∀ c ∈ after, isBlank c = true) (trimmed : Trimmed s) :
    trim (before ++ (s ++ after)) = s := by
  rw [trim, trimStart_append blank]
  cases s with
  | nil =>
    have nothing : trimStart after = [] := by
      rw [← List.append_nil after, trimStart_append blank']
      rfl
    rw [List.nil_append, nothing]
    rfl
  | cons c s =>
    have first : trimStart (c :: s ++ after) = c :: s ++ after :=
      trimStart_of_head? (by simpa using trimmed.1)
    have last : ∀ x ∈ (c :: s).reverse.head?, isBlank x = false := by
      rw [List.head?_reverse]
      exact trimmed.2
    rw [first, trimEnd_eq, List.reverse_append, trimStart_append (by simpa using blank'),
      trimStart_of_head? last, List.reverse_reverse]

theorem trim_of_trimmed {s : List Char} (trimmed : Trimmed s) : trim s = s := by
  have same := trim_append (List.forall_mem_nil _) (List.forall_mem_nil _) trimmed
  rwa [List.nil_append, List.append_nil] at same

end BlockTemplates.Text
