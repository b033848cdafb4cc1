import QueryCompiler.Json.Decode

/-!
# Relations

A relation is declared with the model it stands for; what a lookup hands back is
the handle of that model.
-/

namespace QueryCompiler

open Json

/-- A reference to a registered model. -/
structure RelationHandle where
  model : String
  table : Option String
  deriving DecidableEq, Repr

/-- The declaration of a relation, with further keys for it. -/
structure RelationDefinition where
  model : String
  table : Option String
  aliases : List String
  deriving DecidableEq, Repr

def RelationDefinition.handle (definition : RelationDefinition) : RelationHandle :=
  ⟨definition.model, definition.table⟩

/-- A member that is written only if it has a value. -/
def optionalMember {α : Type} (key : String) (toJson : α → Json) : Option α → Json.Members
  | some value => [(key, toJson value)]
  | none => []

def listMember (key : String) : List Json → Json.Members
  | [] => []
  | items => [(key, .array items)]

/-! ## Handles as JSON -/

namespace RelationHandle

def toJson (handle : RelationHandle) : Json :=
  .object (("model", .string handle.model) :: optionalMember "table" .string handle.table)

structure Partial where
  model : Option String
  table : Option String

def shape : RecordShape Partial RelationHandle where
  name := "RelationHandle"
  fields := ["model", "table"]
  empty := ⟨none, none⟩
  set key draft partly :=
    match key with
    | "model" => do return { partly with model := some (← decodeString draft) }
    | _ => do return { partly with table := ← decodeOption decodeString draft }
  finish partly := do return ⟨← required "model" partly.model, partly.table⟩

def decode (source : Source) : Decoder RelationHandle :=
  shape.decode source

end RelationHandle

/-! ## Declarations as JSON -/

namespace RelationDefinition

def toJson (definition : RelationDefinition) : Json :=
  .object (("model", .string definition.model) ::
    (optionalMember "table" .string definition.table ++
      listMember "aliases" (definition.aliases.map .string)))

structure Partial where
  model : Option String
  table : Option String
  aliases : List String

def shape : RecordShape Partial RelationDefinition where
  name := "RelationDef"
  fields := ["model", "table", "aliases"]
  empty := ⟨none, none, []⟩
  set key draft partly :=
    match key with
    | "model" => do return { partly with model := some (← decodeString draft) }
    | "table" => do return { partly with table := ← decodeOption decodeString draft }
    | _ => do return { partly with aliases := ← decodeList decodeString draft }
  finish partly := do
    return ⟨← required "model" partly.model, partly.table, partly.aliases⟩

def decode (source : Source) : Decoder RelationDefinition :=
  shape.decode source

end RelationDefinition

end QueryCompiler
