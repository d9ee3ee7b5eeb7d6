import BlockTemplates.Command.Arguments
import BlockTemplates.Proofs.Result
import Mathlib.Data.List.TakeWhile

/-! Reading arguments. Whatever is read next, a switch that has been given a path keeps it, so a command is
never given both a folder of templates and a bundle. Main statement: `Matched.readProgram_ne_ok`. -/

namespace BlockTemplates

namespace Switch

def text (s : Switch) : Option String → String
  | none => "--" ++ s.long
  | some value => "--" ++ s.long ++ "=" ++ value

/-- The argument gives a switch by its long name; a value is behind an equals sign or in the next argument. -/
def IsNamedBy (s : Switch) (argument : String) : Prop := ∃ value, argument = s.text value

def afterHyphens (s : Switch) : Option String → List Char
  | none => s.long.toList
  | some value => s.long.toList ++ '=' :: value.toList

theorem toList_text (s : Switch) (value : Option String) :
    (s.text value).toList = '-' :: '-' :: s.afterHyphens value := by
  have hyphens : "--".toList = ['-', '-'] := by decide
  have equals : "=".toList = ['='] := by decide
  cases value with
  | none => rw [text, String.toList_append, hyphens]; rfl
  | some value =>
    rw [text, String.toList_append, String.toList_append, String.toList_append, hyphens, equals, List.append_assoc]
    rfl

theorem ne_equals_of_mem_long (s : Switch) : ∀ c ∈ s.long.toList, decide (c ≠ '=') = true := by
  have absent : '=' ∉ s.long.toList := by cases s <;> decide
  intro c mem
  exact decide_eq_true fun same => absent (same ▸ mem)

theorem afterHyphens_ne_nil (s : Switch) (value : Option String) : s.afterHyphens value ≠ [] := by
  have named : s.long.toList ≠ [] := by cases s <;> decide
  cases value with
  | none => exact named
  | some value => exact List.append_ne_nil_of_left_ne_nil named _

theorem takeWhile_afterHyphens (s : Switch) (value : Option String) :
    String.ofList ((s.afterHyphens value).takeWhile (· ≠ '=')) = s.long := by
  cases value with
  | none =>
    rw [afterHyphens, List.takeWhile_eq_self_iff.mpr s.ne_equals_of_mem_long]
    exact String.ofList_toList
  | some value =>
    rw [afterHyphens, List.takeWhile_append_of_pos s.ne_equals_of_mem_long, List.takeWhile_cons_of_neg (by decide),
      List.append_nil]
    exact String.ofList_toList

theorem dropWhile_afterHyphens (s : Switch) (value : Option String) :
    (s.afterHyphens value).dropWhile (· ≠ '=') = value.elim [] fun value => '=' :: value.toList := by
  cases value with
  | none => exact List.dropWhile_eq_nil_iff.mpr s.ne_equals_of_mem_long
  | some value =>
    rw [afterHyphens, List.dropWhile_append_of_pos s.ne_equals_of_mem_long]
    exact List.dropWhile_cons_of_neg (by decide)

theorem find?_long (scope : Scope) (s : Switch) :
    scope.switches.find? (·.long = s.long) = if s ∈ scope.switches then some s else none := by
  cases scope <;> cases s <;> decide

theorem text_ne {word : String} (s : Switch) (differs : word.toList.head? ≠ some '-') (value : Option String) :
    s.text value ≠ word := by
  rintro rfl
  exact differs (by rw [toList_text]; rfl)

theorem ofName?_text (s : Switch) (value : Option String) : Scope.ofName? (s.text value) = none := by
  unfold Scope.ofName?
  rw [if_neg (s.text_ne (by decide) value), if_neg (s.text_ne (by decide) value),
    if_neg (s.text_ne (by decide) value)]

end Switch

namespace Matched

variable {scope : Scope} {m next : Matched} {s : Switch} {argument : String} {arguments given rest : List String}

theorem step_text (switches : m.wordsOnly = false) (value : Option String) :
    m.step scope (s.text value) =
      if s ∈ scope.switches then
        if s.takesPath then m.assign scope s value
        else if value.isSome then .error .tooManyValues
        else m.turnOn scope s
      else .error .unknownArgument := by
  have long : m.step scope (s.text value) = m.long scope (s.afterHyphens value) := by
    obtain ⟨c, more, shape⟩ := List.exists_cons_of_ne_nil (s.afterHyphens_ne_nil value)
    rw [step, switches, Switch.toList_text, shape]
    rfl
  rw [long, Matched.long, Switch.takeWhile_afterHyphens, Switch.dropWhile_afterHyphens]
  simp only [Switch.find?_long]
  by_cases known : s ∈ scope.switches
  · rw [if_pos known, if_pos known]
    cases value with
    | none => rfl
    | some value => simp only [Option.elim_some, String.ofList_toList]
  · rw [if_neg known, if_neg known]

theorem readProgram_text (value : Option String) (rest : List String) :
    readProgram m (s.text value :: rest) = m.step .program (s.text value) >>= fun next => readProgram next rest := by
  have noHelp : s.text value ≠ "help" := s.text_ne (by decide) value
  rw [readProgram, Switch.ofName?_text]
  simp [noHelp]

def Has (m : Matched) (s : Switch) : Prop := (m.values.lookup s).isSome ∨ ∃ value, m.pending = .switch s value

/-- Nothing that has been read is lost, and switches are still to be read. -/
structure Extends (m next : Matched) : Prop where
  has : ∀ s, m.Has s → next.Has s
  wordsOnly : next.wordsOnly = m.wordsOnly

theorem Extends.refl (m : Matched) : m.Extends m := ⟨fun _ has => has, rfl⟩

theorem Extends.trans {middle : Matched} (first : m.Extends middle) (second : middle.Extends next) : m.Extends next :=
  ⟨fun s has => second.has s (first.has s has), second.wordsOnly.trans first.wordsOnly⟩

theorem settle_keeps (settled : m.settle scope = .ok next) :
    next.wordsOnly = m.wordsOnly ∧ ∀ s, m.Has s → (next.values.lookup s).isSome := by
  unfold settle at settled
  split at settled
  next pending =>
    obtain rfl := Except.ok.inj settled
    refine ⟨rfl, fun s has => has.resolve_right ?_⟩
    rintro ⟨value, other⟩
    cases pending.symm.trans other
  next => cases settled
  next given value pending =>
    split at settled
    · cases settled
    · split at settled
      · cases settled
      · obtain rfl := Except.ok.inj settled
        refine ⟨rfl, fun s has => ?_⟩
        rw [List.lookup_append, Option.isSome_or]
        rcases has with read | ⟨waiting, other⟩
        · rw [read, Bool.true_or]
        · cases pending.symm.trans other
          rw [List.lookup_cons_self, Option.isSome_some, Bool.or_true]
  next word pending =>
    split at settled
    · cases settled
    · obtain rfl := Except.ok.inj settled
      refine ⟨rfl, fun s has => has.resolve_right ?_⟩
      rintro ⟨value, other⟩
      cases pending.symm.trans other

theorem extends_of_settle {middle : Matched} (settled : m.settle scope = .ok middle) (pending : Pending) :
    m.Extends { middle with pending } :=
  ⟨fun s has => .inl ((settle_keeps settled).2 s has), (settle_keeps settled).1⟩

theorem settle_extends (settled : m.settle scope = .ok next) : m.Extends next :=
  ⟨fun s has => .inl ((settle_keeps settled).2 s has), (settle_keeps settled).1⟩

theorem turnOn_extends (turned : m.turnOn scope s = .ok next) : m.Extends next := by
  obtain ⟨middle, settled, turned⟩ := Result.bind_eq_ok_iff.mp turned
  refine (settle_extends settled).trans ?_
  split at turned
  · cases turned
  · cases turned
  · split at turned
    · cases turned
    · obtain rfl := Except.ok.inj turned
      exact ⟨fun _ has => has, rfl⟩

theorem assign_extends {value : Option String} (assigned : m.assign scope s value = .ok next) :
    m.Extends next ∧ next.Has s := by
  obtain ⟨middle, settled, assigned⟩ := Result.bind_eq_ok_iff.mp assigned
  have given := extends_of_settle settled (.switch s value)
  have has : ({ middle with pending := .switch s value } : Matched).Has s := .inr ⟨value, rfl⟩
  split at assigned
  · exact ⟨given.trans (settle_extends assigned), (settle_extends assigned).has s has⟩
  · obtain rfl := Except.ok.inj assigned
    exact ⟨given, has⟩

theorem long_extends {name : List Char} (read : m.long scope name = .ok next) : m.Extends next := by
  unfold Matched.long at read
  simp only at read
  split at read
  · cases read
  · split at read
    · exact (assign_extends read).1
    · split at read
      · cases read
      · exact turnOn_extends read

theorem shorts_extends {letters : List Char} (read : m.shorts scope letters = .ok next) : m.Extends next := by
  induction letters generalizing m with
  | nil =>
    obtain rfl := Except.ok.inj read
    exact .refl _
  | cons c rest ih =>
    unfold shorts at read
    split at read
    · cases read
    · split at read
      · split at read <;> exact (assign_extends read).1
      · obtain ⟨middle, turned, read⟩ := Result.bind_eq_ok_iff.mp read
        exact (turnOn_extends turned).trans (ih read)

def waiting (m : Matched) : List String :=
  match m.pending with
  | .word s => [s]
  | _ => []

theorem exists_word_eq (scope : Scope) (argument : String) (m : Matched) :
    ∃ refusal : Refusal, refusal.exitCode = 2 ∧ m.word scope argument =
      if (m.words ++ m.waiting).length < scope.words.length then
        m.settle scope >>= fun settled => .ok { settled with pending := .word argument }
      else .error refusal := by
  refine ⟨if scope = .program then
      if m.wordsOnly && ((Scope.ofName? argument).isSome || argument = "help") then .unknownArgument
      else .unknownCommand
    else .unknownArgument, ?_, ?_⟩
  · split
    · split <;> rfl
    · rfl
  · rw [List.length_append, apply_ite Except.error]
    unfold word waiting
    cases m.pending <;> rfl

theorem word_extends (read : m.word scope argument = .ok next) : m.Extends next := by
  obtain ⟨refusal, -, same⟩ := exists_word_eq scope argument m
  rw [same] at read
  split at read
  · obtain ⟨middle, settled, read⟩ := Result.bind_eq_ok_iff.mp read
    obtain rfl := Except.ok.inj read
    exact extends_of_settle settled _
  · cases read

/-- One more argument takes back nothing; only two hyphens make all that follow words. -/
theorem step_extends (read : m.step scope argument = .ok next) :
    (∀ s, m.Has s → next.Has s) ∧ (argument ≠ "--" → next.wordsOnly = m.wordsOnly) := by
  have of_extends (kept : m.Extends next) :
      (∀ s, m.Has s → next.Has s) ∧ (argument ≠ "--" → next.wordsOnly = m.wordsOnly) :=
    ⟨kept.has, fun _ => kept.wordsOnly⟩
  unfold step at read
  split at read
  · exact of_extends (word_extends read)
  · split at read
    next hyphens =>
      obtain rfl := Except.ok.inj read
      exact ⟨fun _ has => has, fun other => absurd (String.toList_inj.mp hyphens) other⟩
    next => exact of_extends (long_extends read)
    next => exact of_extends (shorts_extends read)
    next =>
      split at read
      next s pending =>
        obtain rfl := Except.ok.inj read
        refine ⟨fun other has => has.imp_right ?_, fun _ => rfl⟩
        rintro ⟨value, waiting⟩
        cases pending.symm.trans waiting
        exact ⟨_, rfl⟩
      next => exact of_extends (word_extends read)

theorem has_of_step (takes : s.takesPath = true) (switches : m.wordsOnly = false) (named : s.IsNamedBy argument)
    (read : m.step scope argument = .ok next) : s ∈ scope.switches ∧ next.Has s := by
  obtain ⟨value, rfl⟩ := named
  rw [step_text switches] at read
  by_cases known : s ∈ scope.switches
  · rw [if_pos known, if_pos takes] at read
    exact ⟨known, (assign_extends read).2⟩
  · rw [if_neg known] at read
    cases read

/-- Both sources of templates have been read. -/
def HasBoth (m : Matched) : Prop := (m.values.lookup .templates).isSome ∧ (m.values.lookup .bundle).isSome

instance (m : Matched) : Decidable m.HasBoth := inferInstanceAs (Decidable (_ ∧ _))

theorem finish_eq (scope : Scope) (m : Matched) :
    m.finish scope = m.settle scope >>= fun settled =>
      if settled.HasBoth then .error .conflict
      else if settled.words.length < scope.words.length then .error .missingArgument
      else .ok settled := rfl

theorem of_finish_eq_ok (finished : m.finish scope = .ok next) : m.settle scope = .ok next ∧ ¬ next.HasBoth := by
  rw [finish_eq] at finished
  obtain ⟨middle, settled, finished⟩ := Result.bind_eq_ok_iff.mp finished
  split at finished
  · cases finished
  next one =>
    split at finished
    · cases finished
    · obtain rfl := Except.ok.inj finished
      exact ⟨settled, one⟩

theorem isSome_of_readScope (has : m.Has s)
    (read : readScope scope m arguments = .ok next) : (next.values.lookup s).isSome := by
  induction arguments generalizing m with
  | nil => exact (settle_keeps (of_finish_eq_ok read).1).2 s has
  | cons argument rest ih =>
    obtain ⟨middle, stepped, ran⟩ := Result.bind_eq_ok_iff.mp read
    exact ih ((step_extends stepped).1 s has) ran

theorem isSome_of_named (takes : s.takesPath = true) (switches : m.wordsOnly = false)
    (noSeparator : "--" ∉ given) (named : ∃ argument ∈ given, s.IsNamedBy argument)
    (read : readScope scope m (given ++ rest) = .ok next) : s ∈ scope.switches ∧ (next.values.lookup s).isSome := by
  induction given generalizing m with
  | nil => simp at named
  | cons argument given ih =>
    obtain ⟨middle, stepped, ran⟩ := Result.bind_eq_ok_iff.mp read
    rw [List.mem_cons, not_or] at noSeparator
    obtain ⟨found, mem, isNamed⟩ := named
    rcases List.mem_cons.mp mem with rfl | mem
    · obtain ⟨known, has⟩ := has_of_step takes switches isNamed stepped
      exact ⟨known, isSome_of_readScope has ran⟩
    · have middleSwitches : middle.wordsOnly = false :=
        ((step_extends stepped).2 (Ne.symm noSeparator.1)).trans switches
      exact ih middleSwitches noSeparator.2 ⟨found, mem, isNamed⟩ ran

theorem not_hasBoth_of_readScope (read : readScope scope m arguments = .ok next) : ¬ next.HasBoth := by
  induction arguments generalizing m with
  | nil => exact (of_finish_eq_ok read).2
  | cons argument rest ih =>
    obtain ⟨middle, stepped, ran⟩ := Result.bind_eq_ok_iff.mp read
    exact ih ran

/-- Both sources of templates are named among arguments. -/
def NamesBoth (arguments : List String) : Prop :=
  (∃ argument ∈ arguments, Switch.templates.IsNamedBy argument) ∧
    ∃ argument ∈ arguments, Switch.bundle.IsNamedBy argument

theorem readScope_ne_ok (switches : m.wordsOnly = false) (noSeparator : "--" ∉ given)
    (both : NamesBoth given) : readScope scope m (given ++ rest) ≠ .ok next := by
  intro read
  exact not_hasBoth_of_readScope read ⟨(isSome_of_named rfl switches noSeparator both.1 read).2,
    (isSome_of_named rfl switches noSeparator both.2 read).2⟩

theorem NamesBoth.of_cons (both : NamesBoth (argument :: given))
    (noTemplates : ¬ Switch.templates.IsNamedBy argument) (noBundle : ¬ Switch.bundle.IsNamedBy argument) :
    NamesBoth given := by
  unfold NamesBoth at both
  rw [List.exists_mem_cons_iff, List.exists_mem_cons_iff] at both
  exact ⟨both.1.resolve_left noTemplates, both.2.resolve_left noBundle⟩

theorem readProgram_ne_ok {result : Matched × Option (Scope × Matched)}
    (switches : m.wordsOnly = false) (noSeparator : "--" ∉ given) (both : NamesBoth given) :
    readProgram m (given ++ rest) ≠ .ok result := by
  -- the program has neither switch, so both names still stand ahead when a command is named
  induction given generalizing m with
  | nil => simp [NamesBoth] at both
  | cons argument given ih =>
    rw [List.mem_cons, not_or] at noSeparator
    have stepping : m.step .program argument >>= (fun next => readProgram next (given ++ rest)) ≠ .ok result := by
      intro read
      obtain ⟨middle, stepped, ran⟩ := Result.bind_eq_ok_iff.mp read
      have middleSwitches : middle.wordsOnly = false :=
        ((step_extends stepped).2 (Ne.symm noSeparator.1)).trans switches
      have noSource (s : Switch) (takes : s.takesPath = true) (foreign : s ∉ Scope.program.switches) :
          ¬ s.IsNamedBy argument := fun named => foreign (has_of_step takes switches named stepped).1
      exact ih middleSwitches noSeparator.2 (both.of_cons (noSource _ rfl (by decide)) (noSource _ rfl (by decide))) ran
    rw [List.cons_append, readProgram]
    split
    next scope named =>
      have noSwitch (s : Switch) : ¬ s.IsNamedBy argument := by
        rintro ⟨value, rfl⟩
        rw [Switch.ofName?_text] at named
        cases named
      have bothLater := both.of_cons (noSwitch _) (noSwitch _)
      split
      · intro read
        obtain ⟨inner, ran, -⟩ := Result.bind_eq_ok_iff.mp read
        exact readScope_ne_ok rfl noSeparator.2 bothLater ran
      · exact stepping
    next =>
      split
      · exact nofun
      · exact stepping

end Matched

end BlockTemplates
