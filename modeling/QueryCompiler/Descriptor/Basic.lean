import QueryCompiler.Descriptor.Include
import QueryCompiler.Digest.Sha256
import QueryCompiler.Json.Printer

/-!
# Query descriptors

A descriptor is what the compiler hands on: pagination, order, included
associations, columns, a condition, and options that it passes through.  A base
descriptor is the caller's part of it, onto which compiled output is merged.
-/

namespace QueryCompiler

open Json

/-- A field that is left out, explicitly cleared, or set. -/
inductive Slot (α : Type) where
  | omitted
  | cleared
  | set (value : α)
  deriving DecidableEq, Repr

namespace Slot

variable {α : Type}

/-- The slot of an optional value that leaves nothing to be cleared. -/
def ofOption : Option α → Slot α
  | some value => .set value
  | none => .omitted

def value? : Slot α → Option α
  | .set value => some value
  | _ => none

/-- A slot as a member; an omitted one is not written. -/
def toMember (key : String) (toJson : α → Json) : Slot α → Json.Members
  | .omitted => []
  | .cleared => [(key, .null)]
  | .set value => [(key, toJson value)]

/-- A slot that is present; null clears it. -/
def decode (decode : Decoder α) : Decoder (Slot α) := fun draft =>
  (decodeOption decode draft).map fun
    | some value => .set value
    | none => .cleared

end Slot

/-- The keys that only the compiler writes, in the order in which it does. -/
def reservedKeys : List String :=
  ["offset", "limit", "order", "include", "attributes", "where"]

def isReservedKey (key : String) : Bool :=
  reservedKeys.contains key

def orderToJson (order : List OrderTerm) : Json :=
  .array (order.map OrderTerm.toJson)

/-! ## Descriptors -/

/-- A query descriptor.  Without attributes every column is selected. -/
structure Descriptor where
  offset : Slot UInt64
  limit : Slot UInt64
  order : Slot (List OrderTerm)
  includes : List Include
  attributes : Option (List String)
  condition : Predicate
  options : Json.Members

namespace Descriptor

def isPaginated (descriptor : Descriptor) : Bool :=
  descriptor.offset.value?.isSome || descriptor.limit.value?.isSome

/-- A descriptor as the members of an object: the compiled fields and then the
options. -/
def toMembers (descriptor : Descriptor) : Json.Members :=
  descriptor.offset.toMember "offset" Json.ofUInt64 ++
    descriptor.limit.toMember "limit" Json.ofUInt64 ++
    descriptor.order.toMember "order" orderToJson ++
    [("include", .array (Include.toJsonItems descriptor.includes))] ++
    optionalMember "attributes" Json.ofStrings descriptor.attributes ++
    [("where", descriptor.condition.toJson)] ++
    descriptor.options

def toJson (descriptor : Descriptor) : Json :=
  .object descriptor.toMembers

/-- The text that stands for a descriptor in its fingerprint. -/
def canonicalText (descriptor : Descriptor) : String :=
  descriptor.toJson.compact

def fingerprint (descriptor : Descriptor) : String :=
  Digest.sha256Hex descriptor.canonicalText

structure Partial where
  offset : Slot UInt64
  limit : Slot UInt64
  order : Slot (List OrderTerm)
  includes : List Include
  attributes : Option (List String)
  condition : Option Predicate

def shape (source : Source) : RecordShape Partial (Json.Members → Descriptor) where
  name := "QueryDescriptor"
  fields := reservedKeys
  empty := ⟨.omitted, .omitted, .omitted, [], none, none⟩
  set key draft partly :=
    match key with
    | "offset" => do return { partly with offset := ← Slot.decode decodeUInt64 draft }
    | "limit" => do return { partly with limit := ← Slot.decode decodeUInt64 draft }
    | "order" => do
        return { partly with
          order := ← Slot.decode (decodeList (OrderTerm.decode source)) draft }
    | "include" => do return { partly with includes := ← decodeList Include.decode draft }
    | "attributes" => do
        return { partly with attributes := ← decodeOption (decodeList decodeString) draft }
    | _ => do return { partly with condition := some (← Predicate.decode source draft) }
  finish partly := do
    let condition ← required "where" partly.condition
    return fun options =>
      ⟨partly.offset, partly.limit, partly.order, partly.includes, partly.attributes, condition,
        options⟩

/-- A descriptor.  Unknown keys are its options. -/
def decode (source : Source) : Decoder Descriptor :=
  (shape source).decodeOpen

end Descriptor

/-! ## Base descriptors -/

/-- The descriptor that compiled output is merged onto. -/
structure BaseDescriptor where
  offset : Option UInt64
  limit : Option UInt64
  order : Option (List OrderTerm)
  includes : List Include
  attributes : List String
  condition : Option Predicate
  options : Json.Members

namespace BaseDescriptor

def empty : BaseDescriptor :=
  ⟨none, none, none, [], [], none, []⟩

/-- A base descriptor as a value; only what adds something is written. -/
def toJson (base : BaseDescriptor) : Json :=
  .object <|
    optionalMember "offset" Json.ofUInt64 base.offset ++
      optionalMember "limit" Json.ofUInt64 base.limit ++
      optionalMember "order" orderToJson base.order ++
      listMember "include" (Include.toJsonItems base.includes) ++
      listMember "attributes" (base.attributes.map .string) ++
      optionalMember "where" Predicate.toJson base.condition ++
      base.options

def shape (source : Source) : RecordShape BaseDescriptor (Json.Members → BaseDescriptor) where
  name := "BaseDescriptor"
  fields := reservedKeys
  empty := empty
  set key draft partly :=
    match key with
    | "offset" => do return { partly with offset := ← decodeOption decodeUInt64 draft }
    | "limit" => do return { partly with limit := ← decodeOption decodeUInt64 draft }
    | "order" => do
        return { partly with
          order := ← decodeOption (decodeList (OrderTerm.decode source)) draft }
    | "include" => do return { partly with includes := ← decodeList Include.decode draft }
    | "attributes" => do
        return { partly with attributes := ← decodeList decodeString draft }
    | _ => do
        return { partly with condition := ← decodeOption (Predicate.decode source) draft }
  finish partly := .ok fun options => { partly with options := options }

def decode (source : Source) : Decoder BaseDescriptor :=
  (shape source).decodeOpen

end BaseDescriptor

end QueryCompiler
