import BlockTemplates.Files.Discovery
import BlockTemplates.TemplateSet

/-! Folders of templates and files with bundles. -/

namespace BlockTemplates

namespace Bundle

/-- The bundle of the templates in a folder. Templates are read and checked one by one in the order
of their names. -/
def ofFolder (files : FileSystem) (options : BuildOptions) (folder : Path) : Result Bundle := do
  let found ← discover files options folder
  let templates ← found.mapM (fun file => do
    let source ← (files.readText file.path).mapError .io
    let template ← Template.ofSource file.name source options.minified
    template.validate file.name
    return (file.name, template))
  return .new options.minified (.ofList templates)

def write (bundle : Bundle) (files : FileSystem) (path : Path) : FileSystem.Change :=
  files.writeDeep path (some bundle.toText)

def read (files : FileSystem) (path : Path) : Result Bundle := do
  ofText (← (files.readText path).mapError .io)

end Bundle

def TemplateSet.ofFolder (environment : Expr.Environment) (files : FileSystem) (options : BuildOptions)
    (folder : Path) : Result TemplateSet := do
  TemplateSet.ofBundle environment (← Bundle.ofFolder files options folder)

end BlockTemplates
