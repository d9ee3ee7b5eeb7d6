import BlockTemplates.Decimal.Power
import BlockTemplates.Json.Document
import BlockTemplates.Json.Writer
import BlockTemplates.Template

/-! Bundles: compiled templates as one text. A bundle is written as an indented JSON object. A
reader accepts the fields of a record in any order, or without their names in the order in which
they are written; it passes over members that it does not know. -/

namespace BlockTemplates

structure Bundle where
  generator : String
  formatVersion : Nat
  minified : Bool
  templates : Dict Template
  deriving DecidableEq, Inhabited

namespace Bundle

def banner : String := "Generated by forge-templates. Do not edit."

def currentVersion : Nat := 1

def new (minified : Bool) (templates : Dict Template) : Bundle :=
  ⟨banner, currentVersion, minified, templates⟩

def templateText (template : Template) : String :=
  Json.memberLines 2
    [("literals", Json.stringLines 3 template.literals),
      ("expressions", Json.stringLines 3 template.expressions)]

def toText (bundle : Bundle) : String :=
  let templates := bundle.templates.entries.map (fun entry => (entry.1, templateText entry.2))
  Json.memberLines 0
    [("generator", Json.quote bundle.generator),
      ("format_version", Decimal.natText bundle.formatVersion),
      ("minified", if bundle.minified then "true" else "false"),
      ("templates", Json.memberLines 1 templates)] ++ "\n"

def strings? : Json → Option (List String)
  | .array items => items.mapM (fun item => match item with | .string text => text | _ => none)
  | _ => none

/-- The members of a record by name: each known name at most once, other names left out. -/
def record? (known : List String) (members : List (Json.Text × Json)) : Option (List (String × Json)) := do
  let named ← members.mapM (fun member => member.1.map (·, member.2))
  let kept := named.filter (fun member => known.contains member.1)
  if (kept.map Prod.fst).Nodup then some kept else none

/-- The fields of a record, which is written with names or as a list of all its fields. -/
def fields? (known : List String) : Json → Option (List (String × Json))
  | .object members => record? known members
  | .array items => if items.length = known.length then some (known.zip items) else none
  | _ => none

def template? (document : Json) : Option Template := do
  let fields ← fields? ["literals", "expressions"] document
  let literals ← (fields.lookup "literals").bind strings?
  let expressions ← (fields.lookup "expressions").bind strings?
  some ⟨literals, expressions⟩

/-- The templates by name that a document holds; the last one of a repeated name counts. -/
def templates? : Json → Option (Dict Template)
  | .object members => do
    let entries ← members.mapM (fun member => do
      let name ← member.1
      let template ← template? member.2
      some (name, template))
    some (.ofList entries)
  | _ => none

def version? : Json → Option Nat
  | .number n =>
    match n.toData? with
    | some (.int v) => if 0 ≤ v ∧ v < Decimal.twoTo 32 then some v.natAbs else none
    | _ => none
  | _ => none

def flag? : Json → Option Bool
  | .bool b => some b
  | _ => none

def string? : Json → Option String
  | .string text => text
  | _ => none

/-- The bundle of any version that a document holds. Whether it is minified may be left out. -/
def ofJson? (document : Json) : Option Bundle := do
  let fields ← fields? ["generator", "format_version", "minified", "templates"] document
  let generator ← (fields.lookup "generator").bind string?
  let version ← (fields.lookup "format_version").bind version?
  let minified ← match fields.lookup "minified" with
    | none => some false
    | some field => flag? field
  let templates ← (fields.lookup "templates").bind templates?
  some ⟨generator, version, minified, templates⟩

def ofText (text : String) : Result Bundle :=
  match (Json.ofText? text).bind ofJson? with
  | none => .error (.bundle .malformed)
  | some bundle =>
    if bundle.formatVersion ≠ currentVersion then
      .error (.bundle (.unsupportedVersion bundle.formatVersion currentVersion))
    else .ok bundle

end Bundle

end BlockTemplates
