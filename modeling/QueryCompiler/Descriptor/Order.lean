import QueryCompiler.Relation.Basic

/-!
# Ordering terms

A term orders by a column, of the queried model itself or of a relation that is
joined under an alias.
-/

namespace QueryCompiler

open Json

inductive Direction where
  | ascending
  | descending
  deriving DecidableEq, Repr

/-- The relation that a column belongs to. -/
structure RelationQualifier where
  handle : RelationHandle
  name : String
  deriving DecidableEq, Repr

structure OrderTerm where
  column : String
  direction : Direction
  relation : Option RelationQualifier
  deriving DecidableEq, Repr

/-- A term on a column of the queried model. -/
def OrderTerm.plain (column : String) (direction : Direction) : OrderTerm :=
  ⟨column, direction, none⟩

/-- A term on a column of a relation. -/
def OrderTerm.qualified (column : String) (direction : Direction) (handle : RelationHandle)
    (name : String) : OrderTerm :=
  ⟨column, direction, some ⟨handle, name⟩⟩

/-! ## Directions as JSON -/

namespace Direction

def variants : List (String × Direction) :=
  [("ASC", .ascending), ("DESC", .descending)]

def name : Direction → String
  | .ascending => "ASC"
  | .descending => "DESC"

/-- A direction is found under its name. -/
theorem lookup_variants_name (direction : Direction) :
    variants.lookup direction.name = some direction := by
  cases direction <;> decide

def decode (source : Source) : Decoder Direction :=
  decodeVariant source variants

end Direction

/-! ## Qualifiers as JSON -/

namespace RelationQualifier

def toJson (qualifier : RelationQualifier) : Json :=
  .object [("handle", qualifier.handle.toJson), ("alias", .string qualifier.name)]

structure Partial where
  handle : Option RelationHandle
  name : Option String

def shape (source : Source) : RecordShape Partial RelationQualifier where
  name := "RelationQualifier"
  fields := ["handle", "alias"]
  empty := ⟨none, none⟩
  set key draft partly :=
    match key with
    | "handle" => do
        return { partly with handle := some (← RelationHandle.decode source draft) }
    | _ => do return { partly with name := some (← decodeString draft) }
  finish partly := do
    return ⟨← required "handle" partly.handle, ← required "alias" partly.name⟩

def decode (source : Source) : Decoder RelationQualifier :=
  (shape source).decode source

end RelationQualifier

/-! ## Terms as JSON -/

namespace OrderTerm

def toJson (term : OrderTerm) : Json :=
  .object ([("column", .string term.column), ("direction", .string term.direction.name)] ++
    optionalMember "relation" RelationQualifier.toJson term.relation)

structure Partial where
  column : Option String
  direction : Option Direction
  relation : Option RelationQualifier

def shape (source : Source) : RecordShape Partial OrderTerm where
  name := "OrderTerm"
  fields := ["column", "direction", "relation"]
  empty := ⟨none, none, none⟩
  set key draft partly :=
    match key with
    | "column" => do return { partly with column := some (← decodeString draft) }
    | "direction" => do
        return { partly with direction := some (← Direction.decode source draft) }
    | _ => do
        return { partly with
          relation := ← decodeOption (RelationQualifier.decode source) draft }
  finish partly := do
    return ⟨← required "column" partly.column, ← required "direction" partly.direction,
      partly.relation⟩

def decode (source : Source) : Decoder OrderTerm :=
  (shape source).decode source

end OrderTerm

end QueryCompiler
