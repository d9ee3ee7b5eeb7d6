import BlockTemplates.Bundle
import BlockTemplates.Compose.Render

/-! Sets of templates that are ready to be rendered. Loading checks every template in the order of
their names. -/

namespace BlockTemplates

structure TemplateSet where
  environment : Expr.Environment
  minified : Bool
  templates : Dict Template

namespace TemplateSet

def ofBundle (environment : Expr.Environment) (bundle : Bundle) : Result TemplateSet := do
  bundle.templates.entries.forM (fun entry => entry.2.validate entry.1)
  return ⟨environment, bundle.minified, bundle.templates⟩

/-- The bundle of some named sources, of which the last one of a repeated name counts. -/
def bundleOfSources (minified : Bool) (sources : List (String × String)) : Result Bundle := do
  let templates ← sources.mapM (fun source => do
    return (source.1, ← Template.ofSource source.1 source.2 minified))
  return .new minified (.ofList templates)

def ofSources (environment : Expr.Environment) (minified : Bool) (sources : List (String × String)) :
    Result TemplateSet := do
  ofBundle environment (← bundleOfSources minified sources)

def toBundle (set : TemplateSet) : Bundle := .new set.minified set.templates

def get? (set : TemplateSet) (name : String) : Option Template := set.templates.get? name

def names (set : TemplateSet) : List String := set.templates.keys

def declaredBase? (set : TemplateSet) (name : String) : Option String :=
  (set.get? name).bind Template.declaredBase?

def lookup (set : TemplateSet) : Lookup Expr.Value := fun name =>
  (set.get? name).map (fun template => template.produce set.environment name)

def render (set : TemplateSet) (name : String) (data : Data) : Rendered :=
  BlockTemplates.render set.lookup name (.ofData data)

end TemplateSet

end BlockTemplates
