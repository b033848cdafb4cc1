import QueryCompiler.Descriptor.Order
import QueryCompiler.Predicate.Wire

/-!
# Included associations

An entry of `include` is the bare name of an association, or a resolved relation
with options and entries of its own.
-/

namespace QueryCompiler

open Json

/-- A resolved relation with the options of its eager load. -/
structure Expansion where
  targetKey : String
  target : RelationHandle
  name : String
  condition : Option Predicate
  isRequired : Option Bool
  limit : Option UInt64
  separate : Option Bool
  order : List OrderTerm
  attributes : Option Json

inductive Include where
  | name (association : String)
  | expand (expansion : Expansion) (nested : List Include)

namespace Include

/-! ## Writing -/

/-- The members of an expansion before its nested entries. -/
def expansionMembers (expansion : Expansion) : Json.Members :=
  [("targetKey", .string expansion.targetKey), ("target", expansion.target.toJson),
      ("alias", .string expansion.name)] ++
    optionalMember "where" Predicate.toJson expansion.condition ++
    optionalMember "required" .bool expansion.isRequired ++
    optionalMember "limit" Json.ofUInt64 expansion.limit ++
    optionalMember "separate" .bool expansion.separate ++
    listMember "order" (expansion.order.map OrderTerm.toJson) ++
    optionalMember "attributes" id expansion.attributes

mutual

def toJson : Include → Json
  | .name association => .string association
  | .expand expansion nested =>
      .object (expansionMembers expansion ++ listMember "include" (toJsonItems nested))

def toJsonItems : List Include → List Json
  | [] => []
  | entry :: entries => toJson entry :: toJsonItems entries

end

/-! ## Reading from buffered values -/

structure Partial where
  targetKey : Option String
  target : Option RelationHandle
  name : Option String
  condition : Option Predicate
  isRequired : Option Bool
  limit : Option UInt64
  separate : Option Bool
  order : List OrderTerm
  attributes : Option Json
  nested : List Include

namespace Partial

def empty : Partial :=
  ⟨none, none, none, none, none, none, none, [], none, []⟩

/-- The entry with given fields, or the first missing one. -/
def finish (fields : Partial) : Except String Include := do
  let targetKey ← required "targetKey" fields.targetKey
  let target ← required "target" fields.target
  let name ← required "alias" fields.name
  return .expand
    { targetKey := targetKey, target := target, name := name, condition := fields.condition,
      isRequired := fields.isRequired, limit := fields.limit, separate := fields.separate,
      order := fields.order, attributes := fields.attributes }
    fields.nested

/-- Set a field that holds no entries. -/
def set (source : Source) (key : String) (draft : Draft) (fields : Partial) :
    Except ReadError Partial :=
  match key with
  | "targetKey" => do return { fields with targetKey := some (← decodeString draft) }
  | "target" => do
      return { fields with target := some (← RelationHandle.decode source draft) }
  | "alias" => do return { fields with name := some (← decodeString draft) }
  | "where" => do
      return { fields with condition := ← decodeOption (Predicate.decode source) draft }
  | "required" => do return { fields with isRequired := ← decodeOption decodeBool draft }
  | "limit" => do return { fields with limit := ← decodeOption decodeUInt64 draft }
  | "separate" => do return { fields with separate := ← decodeOption decodeBool draft }
  | "order" => do
      return { fields with order := ← decodeList (OrderTerm.decode source) draft }
  | _ => do return { fields with attributes := ← decodeOption Draft.value draft }

def set? (fields : Partial) (key : String) (value : Json) : Option Partial :=
  (set .buffered key (Draft.ofJson value) fields).toOption

end Partial

def fieldNames : List String :=
  ["targetKey", "target", "alias", "where", "required", "limit", "separate", "order",
    "attributes", "include"]

mutual

def ofContent? : Json → Option Include
  | .string association => some (.name association)
  | .object members => setMembers? [] .empty members
  | .array items => setItems? .empty fieldNames items
  | _ => none

def listOfContent? : Json → Option (List Include)
  | .array items => itemsOfContent? items
  | _ => none

def itemsOfContent? : List Json → Option (List Include)
  | [] => some []
  | item :: items => do
      let entry ← ofContent? item
      let entries ← itemsOfContent? items
      return entry :: entries

/-- An expansion from its fields as members.  No field may come twice; other keys
are passed over. -/
def setMembers? (seen : List String) (fields : Partial) :
    List (String × Json) → Option Include
  | [] => fields.finish.toOption
  | (key, value) :: members =>
      if seen.contains key then
        none
      else if key = "include" then do
        let nested ← listOfContent? value
        setMembers? (key :: seen) { fields with nested := nested } members
      else if fieldNames.contains key then do
        let fields ← fields.set? key value
        setMembers? (key :: seen) fields members
      else
        setMembers? seen fields members

def setItems? (fields : Partial) (names : List String) : List Json → Option Include
  | [] => fields.finish.toOption
  | item :: items =>
      match names with
      | [] => none
      | key :: names =>
          if key = "include" then do
            let nested ← listOfContent? item
            setItems? { fields with nested := nested } names items
          else do
            let fields ← fields.set? key item
            setItems? fields names items

end

/-- An entry.  It is buffered as a whole, so a fault in its text is told as such,
and everything else as no entry at all. -/
def decode : Decoder Include := fun draft => do
  match ofContent? (← draft.read) with
  | some entry => return entry
  | none => throw (.mismatch (.noVariant "Include"))

def shape (source : Source) : RecordShape Partial Include where
  name := "ExpandDescriptor"
  fields := fieldNames
  empty := .empty
  set key draft fields :=
    match key with
    | "include" => do return { fields with nested := ← decodeList decode draft }
    | _ => Partial.set source key draft fields
  finish := Partial.finish

def decodeExpansion (source : Source) : Decoder Include :=
  (shape source).decode source

end Include

end QueryCompiler
