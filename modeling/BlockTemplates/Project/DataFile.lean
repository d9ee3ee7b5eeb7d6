import BlockTemplates.Json.Document
import BlockTemplates.Project.Config
import BlockTemplates.Yaml.Reading

/-! Data files in their formats. -/

namespace BlockTemplates

inductive DataFormat where
  | text
  | json
  | toml
  | yaml
  deriving Repr, DecidableEq, Inhabited

namespace DataFormat

def ofName? (name : String) : Option DataFormat :=
  if name = "text" ∨ name = "txt" then some text
  else if name = "json" then some json
  else if name = "toml" then some toml
  else if name = "yaml" ∨ name = "yml" then some yaml
  else none

def read (format : DataFormat) (path : Path) (content : String) : Result Data :=
  let orMalformed {α : Type} : Option α → Result α
    | some a => .ok a
    | none => .error (.dataFile path.text .malformed)
  match format with
  | text => .ok (.string content)
  | json => orMalformed ((Json.ofText? content).bind Json.toData?)
  | yaml => orMalformed (Yaml.data? content)
  | toml => do
    let v ← orMalformed ((Toml.ofText? content).filter Toml.isReadable)
    v.toData.mapError (.unconvertibleFloat path.text)

end DataFormat

def formatName (path : Path) (given : Option String) : String :=
  match given with
  | some name => (Text.trimString name).map Char.toLower
  | none => (path.extension?.getD "").map Char.toLower

/-- The data in the file at `path`, which failures show as `shown`. -/
def readDataFile (files : FileSystem) (path shown : Path) (format : Option String) : Result Data := do
  let content ← (files.readText path).mapError (fun error => .dataFile shown.text (.unreadable error))
  let name := formatName path format
  match DataFormat.ofName? name with
  | some format => format.read shown content
  | none => throw (.unsupportedFormat name)

def loadDataFile (files : FileSystem) (path : Path) : Result Data := readDataFile files path path none

def Config.loadData (config : Config) (files : FileSystem) (root : Path) : Result (List (String × Data)) :=
  config.data.entries.mapM (fun (name, source) => do
    return (name, ← readDataFile files (root.join source.path) source.path source.format))

end BlockTemplates
