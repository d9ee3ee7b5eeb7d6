import BlockTemplates.Decimal.Power
import BlockTemplates.Failure
import BlockTemplates.Files.Discovery
import BlockTemplates.Toml.Document

/-! The configuration of a project: where its templates are, how they are built, and which files
hold data. It is read from the first file there is of three. -/

namespace BlockTemplates

/-- A data file, with the name of its format unless that is the extension of the file. -/
structure DataSource where
  path : Path
  format : Option String
  deriving Repr, DecidableEq, Inhabited

structure Config where
  root : Path := ⟨"templates"⟩
  suffix : String := ".tmpl.html"
  minified : Bool := false
  exclude : List String := []
  data : Dict DataSource := .empty
  deriving DecidableEq, Inhabited

namespace Config

def candidates : List Path := [⟨"forge.toml"⟩, ⟨".forge.toml"⟩, ⟨".config/forge.toml"⟩]

def momentKey : String := "$__toml_private_datetime"

/-- The entries of a table; a moment counts as a table that holds its text. -/
def entries? : Toml → Option (List (String × Toml))
  | .table entries => some entries
  | .moment m => some [(momentKey, .string m.text)]
  | _ => none

/-- The fields of a record with the given names: those of a table, or the items of an array in the
order of the names. -/
def fields? (names : List String) : Toml → Option (List (String × Toml))
  | .array items => some (names.zip items)
  | v => entries? v

/-- The value of a field, read by `read?`, or what holds when the field is left out. -/
def field? {α : Type} (fields : List (String × Toml)) (name : String) (absent : α) (read? : Toml → Option α) :
    Option α :=
  match fields.lookup name with
  | some v => read? v
  | none => some absent

def string? : Toml → Option String
  | .string s => some s
  | _ => none

def flag? : Toml → Option Bool
  | .bool b => some b
  | _ => none

def strings? : Toml → Option (List String)
  | .array items => items.mapM string?
  | _ => none

/-- Whether every number in the fields that have none of the given names can be passed over. -/
def othersFit (names : List String) (fields : List (String × Toml)) : Bool :=
  (fields.filter (fun field => !names.contains field.1)).all (fun field =>
    field.2.fits (-Decimal.twoTo 127) (Decimal.twoTo 128 - 1))

def source? (v : Toml) : Option DataSource :=
  if !v.fits (-Decimal.twoTo 63) (Decimal.twoTo 64 - 1) then none
  else
    match v with
    | .string path => some ⟨⟨path⟩, none⟩
    | .array [.string path, .string format] => some ⟨⟨path⟩, some format⟩
    | .table entries => do
      let path ← (entries.lookup "path").bind string?
      let format ← (entries.lookup "format").bind string?
      some ⟨⟨path⟩, some format⟩
    | _ => none

def sources? (v : Toml) : Option (Dict DataSource) := do
  let entries ← entries? v
  some (.ofList (← entries.mapM (fun entry => (source? entry.2).map (entry.1, ·))))

def withTemplates? (config : Config) (v : Toml) : Option Config := do
  let names := ["root", "suffix", "minify_html", "exclude"]
  let fields ← fields? names v
  if !othersFit names fields then none
  else
    let root ← field? fields "root" config.root (fun v => (string? v).map Path.mk)
    let suffix ← field? fields "suffix" config.suffix string?
    let minified ← field? fields "minify_html" config.minified flag?
    let exclude ← field? fields "exclude" config.exclude strings?
    some { config with root, suffix, minified, exclude }

def ofToml? (document : Toml) : Option Config := do
  let names := ["templates", "data"]
  let fields ← entries? document
  if !othersFit names fields then none
  else
    let config ← field? fields "templates" {} (withTemplates? {})
    let data ← field? fields "data" .empty sources?
    some { config with data }

def ofText (text : String) : Result Config :=
  match (Toml.ofText? text).bind ofToml? with
  | some config => .ok config
  | none => .error (.config .malformed)

def find? (files : FileSystem) (root : Path) : Option Path :=
  (candidates.map root.join).find? files.isFile

def load (files : FileSystem) (root : Path) : Result (Option Config) :=
  match find? files root with
  | none => .ok none
  | some path => do
    let text ← (files.readText path).mapError .io
    return some (← ofText text)

def templateRoot (config : Config) (root : Path) : Path := root.join config.root

def buildOptions (config : Config) : BuildOptions := ⟨config.suffix, config.minified, config.exclude⟩

end Config

end BlockTemplates
