import QueryCompiler.Folder.Basic
import QueryCompiler.Relation.Registry
import QueryCompiler.Yaml.Decode

/-!
# Registry files

A registry is kept in a JSON file, told by the extension `json`, or in a YAML
file.
-/

namespace QueryCompiler

/-- Why a file holds no registry. -/
inductive RegistryFileError where
  | unreadable (fault : PathError)
  | yaml
  | json (error : Json.ReadError)
  deriving DecidableEq

namespace RelationDefinition

def setField : Yaml.Decode.FieldSetter Partial := fun key partly =>
  match key with
  | "model" => some fun node => do
      return { partly with model := some (← Yaml.Decode.string node) }
  | "table" => some fun node => do
      return { partly with table := ← Yaml.Decode.option Yaml.Decode.string node }
  | "aliases" => some fun node => do
      return { partly with aliases := ← Yaml.Decode.list Yaml.Decode.string node }
  | _ => none

def ofYaml : Yaml.Decoder RelationDefinition := fun node => do
  let partly ← Yaml.Decode.record setField shape.empty node
  match partly.model with
  | some model => return ⟨model, partly.table, partly.aliases⟩
  | none => failure

end RelationDefinition

namespace Registry

def setDocumentField : Yaml.Decode.FieldSetter Document := fun key document =>
  match key with
  | "version" => some fun node => do
      return { document with version := ← Yaml.Decode.option Yaml.Decode.string node }
  | "relations" => some fun node => do
      let pairs ← Yaml.Decode.map RelationDefinition.ofYaml node
      return { document with relations := sortPairs pairs }
  | _ => none

def ofYamlText? (text : String) : Option Registry := do
  let document ← (← Yaml.Document.ofText? text).decode?
    (Yaml.Decode.record setDocumentField ⟨none, []⟩)
  return ofDocument document

/-- What stands behind the last dot of the last name of a path, unless that dot
begins the name. -/
def fileExtension? (path : String) : Option String :=
  let name := (Text.pieces '/' path.toList).getLastD []
  match (Text.pieces '.' name).reverse with
  | extension :: before :: others =>
      if before.isEmpty && others.isEmpty then none else some (String.ofList extension)
  | _ => none

def ofFile (folder : Folder) (path : String) : Except RegistryFileError Registry := do
  let text ← (folder.read path).mapError .unreadable
  if fileExtension? path = some "json" then
    (ofJsonText text).mapError .json
  else
    match ofYamlText? text with
    | some registry => return registry
    | none => throw .yaml

end Registry

end QueryCompiler
