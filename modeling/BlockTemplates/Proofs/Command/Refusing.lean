import BlockTemplates.Proofs.Command.Arguments

/-! Refusals of arguments. Help and the version are answers and no errors, so a refusal of arguments that
ask for neither is an error. Main statement: `CommandLine.isError_ofArguments`. -/

namespace BlockTemplates

/-- Whether an argument asks for help or the version, be it with one letter among others. What stands behind
the letter of the path is its value. -/
def asksForHelp (argument : String) : Bool :=
  argument = "help" || argument = Switch.help.text none || argument = Switch.version.text none ||
    match argument.toList with
    | '-' :: '-' :: _ => false
    | '-' :: letters => (letters.takeWhile (· ≠ 'p')).any fun c => c = 'h' || c = 'V'
    | _ => false

def IsError {α : Type} (result : Except Refusal α) : Prop :=
  ∀ refusal, result = .error refusal → refusal.exitCode = 2

namespace IsError

variable {α β : Type}

theorem of_ok (value : α) : IsError (.ok value) := fun _ same => nomatch same

theorem of_error {refusal : Refusal} (error : refusal.exitCode = 2) : IsError (.error refusal : Except Refusal α) := by
  rintro _ ⟨⟩
  exact error

theorem bind {first : Except Refusal α} {next : α → Except Refusal β} (begun : IsError first)
    (ended : ∀ value, IsError (next value)) : IsError (first >>= next) := by
  cases first with
  | error refusal => exact of_error (begun refusal rfl)
  | ok value => exact ended value

end IsError

namespace Matched

variable {scope : Scope} {m : Matched} {s : Switch} {argument : String}

theorem isError_settle : IsError (m.settle scope) := by
  unfold settle
  split
  · exact .of_ok _
  · exact .of_error rfl
  · split
    · exact .of_error rfl
    · split
      · exact .of_error rfl
      · exact .of_ok _
  · split
    · exact .of_error rfl
    · exact .of_ok _

theorem isError_turnOn (noHelp : s ≠ .help) (noVersion : s ≠ .version) : IsError (m.turnOn scope s) := by
  refine .bind isError_settle fun settled => ?_
  split
  · exact absurd rfl noHelp
  · exact absurd rfl noVersion
  · split
    · exact .of_error rfl
    · exact .of_ok _

theorem isError_assign {value : Option String} : IsError (m.assign scope s value) := by
  refine .bind isError_settle fun settled => ?_
  split
  · exact isError_settle
  · exact .of_ok _

theorem isError_long {letters : List Char} (noHelp : letters ≠ Switch.help.long.toList)
    (noVersion : letters ≠ Switch.version.long.toList) : IsError (m.long scope letters) := by
  unfold Matched.long
  dsimp only
  split
  · exact .of_error rfl
  · next s found =>
    have named : s.long = String.ofList (letters.takeWhile (· ≠ '=')) := by simpa using List.find?_some found
    split
    · exact isError_assign
    · split
      · exact .of_error rfl
      · next bare =>
        have whole : letters = s.long.toList := by
          rw [named, String.toList_ofList]
          exact (List.takeWhile_eq_self_iff.mpr (List.dropWhile_eq_nil_iff.mp bare)).symm
        change IsError (m.turnOn scope s)
        apply isError_turnOn
        · rintro rfl
          exact noHelp whole
        · rintro rfl
          exact noVersion whole

theorem isError_shorts {letters : List Char} (quiet : ∀ c ∈ letters.takeWhile (· ≠ 'p'), c ≠ 'h' ∧ c ≠ 'V') :
    IsError (m.shorts scope letters) := by
  induction letters generalizing m with
  | nil => exact .of_ok _
  | cons c rest ih =>
    unfold shorts
    split
    · exact .of_error rfl
    · next s found =>
      have named : s.short? = some c := by simpa using List.find?_some found
      split
      · split <;> exact isError_assign
      · next bare =>
        have noPath : c ≠ 'p' := by
          rintro rfl
          cases s <;> cases named
          exact bare rfl
        rw [List.takeWhile_cons_of_pos (by simpa using noPath), List.forall_mem_cons] at quiet
        refine .bind (isError_turnOn ?_ ?_) fun turned => ih quiet.2
        · rintro rfl
          exact quiet.1.1 (Option.some.inj named).symm
        · rintro rfl
          exact quiet.1.2 (Option.some.inj named).symm

theorem isError_word : IsError (m.word scope argument) := by
  obtain ⟨refusal, error, same⟩ := exists_word_eq scope argument m
  rw [same]
  split
  · exact .bind isError_settle fun settled => .of_ok _
  · exact .of_error error

theorem isError_step (quiet : asksForHelp argument = false) : IsError (m.step scope argument) := by
  unfold asksForHelp at quiet
  simp only [Bool.or_eq_false_iff, decide_eq_false_iff_not] at quiet
  obtain ⟨⟨⟨-, noHelp⟩, noVersion⟩, noLetter⟩ := quiet
  unfold step
  split
  · exact isError_word
  · split
    · exact .of_ok _
    · next letters _ hyphens =>
      have other (s : Switch) (differs : argument ≠ s.text none) : letters ≠ s.long.toList := by
        rintro rfl
        exact differs (String.toList_inj.mp (hyphens.trans (s.toList_text none).symm))
      exact isError_long (other _ noHelp) (other _ noVersion)
    · next c letters _ single hyphens =>
      have quiet : ((c :: letters).takeWhile (· ≠ 'p')).any (fun c => c = 'h' || c = 'V') = false := by
        rw [hyphens] at noLetter
        split at noLetter
        · next same => exact absurd (List.cons.inj (List.cons.inj same).2).1 single
        · next same =>
          rw [(List.cons.inj same).2]
          exact noLetter
        · next other => exact absurd rfl (other _)
      apply isError_shorts
      simpa using quiet
    · split
      · exact .of_ok _
      · exact isError_word

theorem isError_finish : IsError (m.finish scope) := by
  rw [finish_eq]
  refine .bind isError_settle fun settled => ?_
  split
  · exact .of_error rfl
  · split
    · exact .of_error rfl
    · exact .of_ok _

end Matched

theorem isError_readScope {scope : Scope} {m : Matched} {arguments : List String}
    (quiet : ∀ argument ∈ arguments, asksForHelp argument = false) : IsError (readScope scope m arguments) := by
  induction arguments generalizing m with
  | nil => exact Matched.isError_finish
  | cons argument rest ih =>
    rw [List.forall_mem_cons] at quiet
    exact .bind (Matched.isError_step quiet.1) fun next => ih quiet.2

theorem isError_readProgram {m : Matched} {arguments : List String}
    (quiet : ∀ argument ∈ arguments, asksForHelp argument = false) : IsError (readProgram m arguments) := by
  induction arguments generalizing m with
  | nil => exact .of_ok _
  | cons argument rest ih =>
    rw [List.forall_mem_cons] at quiet
    have goesOn : IsError (m.step .program argument >>= fun next => readProgram next rest) :=
      .bind (Matched.isError_step quiet.1) fun next => ih quiet.2
    have noWord : argument ≠ "help" := by
      rintro rfl
      exact absurd quiet.1 (by decide)
    rw [readProgram]
    split
    · split
      · exact .bind (isError_readScope quiet.2) fun inner => .of_ok _
      · exact goesOn
    · rw [if_neg (by simp [noWord])]
      exact goesOn

/-- Arguments that do not ask for help or the version are read, or refused with the status of an error. -/
theorem CommandLine.isError_ofArguments {arguments : List String}
    (quiet : ∀ argument ∈ arguments, asksForHelp argument = false) : IsError (ofArguments arguments) := by
  refine .bind (isError_readProgram quiet) fun read => .bind Matched.isError_finish fun outer => ?_
  split <;> exact .of_ok _

end BlockTemplates
