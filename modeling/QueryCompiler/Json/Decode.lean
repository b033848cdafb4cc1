import QueryCompiler.Json.Draft

/-!
# Decoders

A decoder takes a draft to a typed value or to the first error on the way.  A
record is an object with named fields, or the list of its fields in order; a
name among variants is a string, or an object with that name as its only key
and null under it.
-/

namespace QueryCompiler.Json

/-- Where a draft comes from.  A buffered draft is part of a value that had to
be held back until its kind was known.  The sources differ in the wording of a
few errors only. -/
inductive Source where
  | value
  | text
  | buffered
  deriving DecidableEq, Repr

abbrev Decoder (α : Type) := Draft → Except ReadError α

def wrongType {α : Type} (expected : Expected) (draft : Draft) : Except ReadError α := do
  let found ← draft.found
  throw (.mismatch (.wrongType found expected))

/-! ## Single values -/

def decodeString : Decoder String
  | .string value => .ok value
  | other => wrongType .string other

def decodeBool : Decoder Bool
  | .bool value => .ok value
  | other => wrongType .boolean other

/-- A natural of 64 bits; only a number of that kind will do. -/
def decodeUInt64 : Decoder UInt64
  | .number (.natural value) => .ok value
  | .number (.negative below) =>
      .error (.mismatch (.wrongValue (.integer (Int.negSucc below)) .natural))
  | other => wrongType .natural other

def decodeOption {α : Type} (decode : Decoder α) : Decoder (Option α)
  | .null => .ok none
  | other => (decode other).map some

/-! ## Lists -/

def decodeItems {α : Type} (decode : Decoder α) : List Draft → Except ReadError (List α)
  | [] => .ok []
  | item :: items => do
      let value ← decode item
      let values ← decodeItems decode items
      return value :: values

def decodeList {α : Type} (decode : Decoder α) : Decoder (List α)
  | .array items ending => do
      let values ← decodeItems decode items
      ending.reading
      return values
  | other => wrongType .sequence other

/-! ## Maps -/

def decodePairs {α : Type} (decode : Decoder α) :
    List (Except TextFault String × Draft) → Except ReadError (List (String × α))
  | [] => .ok []
  | (key, draft) :: members => do
      let key ← Draft.readKey key
      let value ← decode draft
      let pairs ← decodePairs decode members
      return (key, value) :: pairs

/-- An object with values of one type, as the list of its members. -/
def decodeMap {α : Type} (decode : Decoder α) : Decoder (List (String × α))
  | .object members ending => do
      let pairs ← decodePairs decode members
      ending.reading
      return pairs
  | other => wrongType .map other

/-! ## Names among variants -/

def findVariant {α : Type} (variants : List (String × α)) (name : String) :
    Except ReadError α :=
  match variants.lookup name with
  | some variant => .ok variant
  | none => .error (.mismatch (.unknownVariant name (variants.map Prod.fst)))

/-- The null under the name of a variant.  Among buffered drafts an empty object
will do as well. -/
def decodeUnit (source : Source) : Decoder Unit
  | .null => .ok ()
  | .object [] .closed =>
      if source = .buffered then .ok () else .error (.mismatch (.wrongType .map .unit))
  | other => wrongType .unit other

def decodeVariant {α : Type} (source : Source) (variants : List (String × α)) : Decoder α
  | .string name => findVariant variants name
  | .object members ending =>
      match source, members with
      | .text, [] => .error ending.naming
      | .text, (key, draft) :: others => do
          let variant ← findVariant variants (← Draft.readKey key)
          decodeUnit source draft
          if others.isEmpty then ending.closing else throw (.malformed .expectedValue)
          return variant
      | _, [(key, draft)] => do
          let variant ← findVariant variants (← Draft.readKey key)
          decodeUnit source draft
          return variant
      | _, _ => .error (.mismatch (.wrongValue .map .mapWithSingleKey))
  | .fault cause => .error cause.naming
  | other =>
      if source = .text then .error (.malformed .expectedValue)
      else wrongType .stringOrMap other

/-! ## Records -/

/-- How a record is decoded.  Fields are set one by one in a partial record;
`finish` gives the whole one or the first missing field. -/
structure RecordShape (σ α : Type) where
  name : String
  fields : List String
  empty : σ
  set : String → Draft → σ → Except ReadError σ
  finish : σ → Except String α

namespace RecordShape

variable {σ α : Type}

/-- Set fields from members in order.  No field may come twice; other keys are
passed over. -/
def setMembers (shape : RecordShape σ α) (seen : List String) (partly : σ) :
    List (Except TextFault String × Draft) → Except ReadError σ
  | [] => .ok partly
  | (key, draft) :: members => do
      let key ← Draft.readKey key
      if shape.fields.contains key then
        if seen.contains key then
          throw (.mismatch (.duplicateField key))
        else
          let partly ← shape.set key draft partly
          shape.setMembers (key :: seen) partly members
      else
        draft.skip
        shape.setMembers seen partly members

/-- Set fields from items in their order.  The items beyond the last field are
left. -/
def setItems (shape : RecordShape σ α) (partly : σ) :
    List String → List Draft → Except ReadError (σ × List Draft)
  | field :: fields, item :: items => do
      let partly ← shape.set field item partly
      shape.setItems partly fields items
  | _, items => .ok (partly, items)

/-- The error for a list with more items than the record has fields. -/
def tooManyItems (source : Source) (length fields : Nat) : ReadError :=
  match source with
  | .value => .mismatch (.wrongLength length .fewerInArray)
  | .text => .malformed .trailingCharacters
  | .buffered => .mismatch (.wrongLength length (.inSequence fields))

def decode (shape : RecordShape σ α) (source : Source) : Decoder α
  | .object members ending => do
      let partly ← shape.setMembers [] shape.empty members
      ending.reading
      (shape.finish partly).mapError fun field => .mismatch (.missingField field)
  | .array items ending => do
      let (partly, left) ← shape.setItems shape.empty shape.fields items
      if items.length < shape.fields.length then ending.reading else pure ()
      let record ← (shape.finish partly).mapError fun _ =>
        .mismatch (.wrongLength items.length (.ofRecord shape.name shape.fields.length))
      if left.isEmpty then
        ending.closing
        return record
      else
        throw (tooManyItems source items.length shape.fields.length)
  | other => wrongType (.record shape.name) other

/-! ### Open records -/

/-- Set fields from members in order, and keep the members under other keys. -/
def setOpenMembers (shape : RecordShape σ α) (seen : List String) (partly : σ) :
    List (Except TextFault String × Draft) → Except ReadError (σ × List (String × Json))
  | [] => .ok (partly, [])
  | (key, draft) :: members => do
      let key ← Draft.readKey key
      if shape.fields.contains key then
        if seen.contains key then
          throw (.mismatch (.duplicateField key))
        else
          let partly ← shape.set key draft partly
          shape.setOpenMembers (key :: seen) partly members
      else
        let value ← draft.value
        let (partly, others) ← shape.setOpenMembers seen partly members
        return (partly, (key, value) :: others)

/-- A record that takes the members under other keys as well.  It has to be an
object. -/
def decodeOpen (shape : RecordShape σ (List (String × Json) → α)) : Decoder α
  | .object members ending => do
      let (partly, others) ← shape.setOpenMembers [] shape.empty members
      ending.reading
      let finish ← (shape.finish partly).mapError fun field => .mismatch (.missingField field)
      return finish (distinctMembers others)
  | other => wrongType (.record shape.name) other

end RecordShape

def required {α : Type} (name : String) : Option α → Except String α
  | some value => .ok value
  | none => .error name

end QueryCompiler.Json
