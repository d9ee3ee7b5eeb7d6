import BlockTemplates.Command.Run
import BlockTemplates.Proofs.Project.Folder

/-! Commands that fail. A failed command prints nothing, and only a build ever changes the files: it
writes last, once the configuration and every template have been found good. Main statement:
`CommandLine.run_failed`. -/

namespace BlockTemplates

variable {files : FileSystem} {folder : Path} {failure : Failure}

namespace Setting

variable {setting : Setting} {output : Path} {minified : Bool}

theorem build_unbuildable
    (unbuildable : Unbuildable files (setting.buildOptions minified) (setting.root.join folder) failure) :
    setting.build files folder output minified = build.unsuccessful setting files failure := by
  unfold build
  rw [Bundle.ofFolder_eq_error_iff.mpr unbuildable]

/-- A build that fails has made folders at most. -/
theorem grown_build (failed : (setting.build files folder output minified).code ≠ 0) :
    FileSystem.Grown none files (setting.build files folder output minified).files := by
  unfold build at failed ⊢
  cases built : Bundle.ofFolder files (setting.buildOptions minified) (setting.root.join folder) with
  | error failure => exact .refl none files
  | ok bundle =>
    rw [built] at failed
    cases stopped : (bundle.write files (setting.root.join output)).stopped with
    | some error =>
      dsimp only
      rw [stopped]
      exact FileSystem.grown_of_writeDeep stopped
    | none =>
      dsimp only at failed
      rw [stopped] at failed
      exact absurd rfl failed

theorem output_build (failed : (setting.build files folder output minified).code ≠ 0) :
    (setting.build files folder output minified).output = "" := by
  unfold build at failed ⊢
  split
  · rfl
  · next built =>
    rw [built] at failed
    dsimp only at failed ⊢
    split
    · rfl
    · next stopped =>
      rw [stopped] at failed
      exact absurd rfl failed

theorem output_printed {result : Result String} (failed : (run.printed files result).code ≠ 0) :
    (run.printed files result).output = "" := by
  cases result with
  | error failure => rfl
  | ok output => exact absurd rfl failed

theorem files_printed (result : Result String) : (run.printed files result).files = files := by
  cases result with
  | error failure => rfl
  | ok output => rfl

theorem output_run {command : Command} (failed : (setting.run files command).code ≠ 0) :
    (setting.run files command).output = "" := by
  cases command with
  | build folder output minified watch => exact output_build failed
  | render name templates bundle data minified => exact output_printed failed
  | list templates => exact output_printed failed

end Setting

namespace CommandLine

variable {line : CommandLine} {command : Command}

def setting (line : CommandLine) (files : FileSystem) (config : Option Config) (color : Bool) : Setting :=
  ⟨line.rootFolder files, config, color && !line.noColor⟩

theorem run_cases (given : line.command = some command) (files : FileSystem) (color : Bool) :
    (∃ failure, Config.load files (line.rootFolder files) = .error failure ∧
      line.run files color = ⟨2, "", [.failure failure], files⟩) ∨
    ∃ config, Config.load files (line.rootFolder files) = .ok config ∧
      line.run files color = (line.setting files config color).run files command := by
  unfold run
  rw [given]
  dsimp only
  cases loaded : Config.load files (line.rootFolder files) with
  | error failure => exact .inl ⟨failure, rfl, rfl⟩
  | ok config => exact .inr ⟨config, rfl, rfl⟩

theorem output_of_failed {color : Bool} (failed : (line.run files color).code ≠ 0) :
    (line.run files color).output = "" := by
  cases given : line.command with
  | none =>
    unfold run
    rw [given]
  | some command =>
    rcases run_cases given files color with ⟨failure, -, same⟩ | ⟨config, -, same⟩
    · rw [same]
    · rw [same] at failed ⊢
      exact Setting.output_run failed

theorem files_run {color : Bool} (given : line.command = some command)
    (kept : ∀ setting : Setting, (setting.run files command).files = files) :
    (line.run files color).files = files := by
  rcases run_cases given files color with ⟨failure, -, same⟩ | ⟨config, -, same⟩
  · rw [same]
  · rw [same]
    exact kept _

/-- A command that fails prints nothing. Rendering and listing change nothing; a build changes nothing
unless it has its configuration and each of its templates is good, and folders at most unless it
succeeds. -/
theorem run_failed (line : CommandLine) (files : FileSystem) (color : Bool) :
    let outcome := line.run files color
    (outcome.code ≠ 0 → outcome.output = "") ∧
    (∀ name templates bundle data minified,
      line.command = some (.render name templates bundle data minified) → outcome.files = files) ∧
    (∀ templates, line.command = some (.list templates) → outcome.files = files) ∧
    ∀ folder output minified, line.command = some (.build folder output minified false) →
      (∀ failure, Config.load files (line.rootFolder files) = .error failure →
        outcome.code = 2 ∧ .failure failure ∈ outcome.complaints ∧ outcome.files = files) ∧
      (∀ config failure, Config.load files (line.rootFolder files) = .ok config →
        Unbuildable files ((line.setting files config color).buildOptions minified)
          ((line.rootFolder files).join folder) failure →
        outcome.code = 2 ∧ .failure failure ∈ outcome.complaints ∧ outcome.files = files) ∧
      (outcome.code ≠ 0 → FileSystem.Grown none files outcome.files) := by
  refine ⟨output_of_failed, ?_, ?_, ?_⟩
  · intro name templates bundle data minified given
    exact files_run given fun _ => Setting.files_printed _
  · intro templates given
    exact files_run given fun _ => Setting.files_printed _
  · intro folder output minified given
    rcases run_cases given files color with ⟨failure, stopped, same⟩ | ⟨config, loaded, same⟩
    · rw [same, stopped]
      refine ⟨?_, fun _ _ => nofun, fun _ => .refl none files⟩
      intro other found
      obtain rfl := Except.error.inj found
      exact ⟨rfl, List.mem_singleton_self _, rfl⟩
    · rw [same, loaded]
      refine ⟨fun _ => nofun, ?_, Setting.grown_build⟩
      intro other failure found unbuildable
      obtain rfl := Except.ok.inj found
      have unbuilt : (line.setting files config color).run files (.build folder output minified false) = _ :=
        Setting.build_unbuildable unbuildable
      rw [unbuilt]
      exact ⟨rfl, List.mem_cons_of_mem _ (List.mem_singleton_self _), rfl⟩

end CommandLine

end BlockTemplates
