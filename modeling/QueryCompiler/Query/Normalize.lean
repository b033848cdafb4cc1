import QueryCompiler.Json.Reader
import QueryCompiler.Query.Basic

/-!
# Specifications from raw input

Every field of the raw input is looked at for itself.  A field of another shape
than it should have counts as missing, so raw input of any shape gives a
specification.
-/

namespace QueryCompiler

open Json

/-! ## Fields -/

/-- The natural that a double stands for, if it is one of at most `2 ^ 64`; the
largest natural of 64 bits stands for that bound. -/
def wholeFloat? (value : Binary64) : Option UInt64 :=
  match value.natAbs? with
  | some magnitude =>
      if value.negative && magnitude != 0 then none
      else if UInt64.size < magnitude then none
      else some (.ofNat (min magnitude (UInt64.size - 1)))
  | none => none

/-- The natural that a number stands for.  JSON has one type of numbers, so
`5.0` counts as a natural. -/
def wholeNumber? : Json → Option UInt64
  | .number (.natural value) => some value
  | .number (.float value) => wholeFloat? value
  | _ => none

def positiveNumber? (raw : Json) : Option UInt64 :=
  (wholeNumber? raw).filter fun value => 1 ≤ value

/-- A filter.  Null asks for no restriction; anything else is left to the
translator. -/
def filterOrEmpty (raw : Option Json) : Json :=
  (raw.bind Json.nonNull?).getD QuerySpec.emptyFilter

def nonEmptyString? : Json → Option String
  | .string value => if value.isEmpty then none else some value
  | _ => none

/-- The texts of a list that are not empty. -/
def stringList : Option Json → List String
  | some (.array items) => items.filterMap nonEmptyString?
  | _ => []

/-! ## Associations -/

def ExpandRequest.ofJson (raw : Json) : ExpandRequest where
  name := (raw.member? "name").bind nonEmptyString?
  modelName := (raw.member? "modelName").bind nonEmptyString?
  condition := (raw.member? "where").bind Json.nonNull?
  isRequired := (raw.member? "required").bind Json.bool?
  limit := (raw.member? "limit").bind wholeNumber?
  separate := (raw.member? "separate").bind Json.bool?
  order := stringList (raw.member? "order")
  attributes := (raw.member? "attributes").bind Json.nonNull?

namespace ExpandEntry

mutual

def ofJson : Json → ExpandEntry
  | .string association =>
      if association.isEmpty then .invalid (.string association) else .name association
  | .object members => .request (.ofJson (.object members)) (ofMembers members)
  | other => .invalid other

/-- The associations under the key `expands` of an object. -/
def ofMembers : List (String × Json) → List ExpandEntry
  | [] => []
  | (key, value) :: members => if key = "expands" then ofList value else ofMembers members

def ofList : Json → List ExpandEntry
  | .array items => ofItems items
  | _ => []

def ofItems : List Json → List ExpandEntry
  | [] => []
  | item :: items => ofJson item :: ofItems items

end

end ExpandEntry

/-! ## Specifications -/

namespace QuerySpec

/-- The specification that raw input asks for.  Input other than an object asks
for nothing in particular. -/
def ofJson : Json → QuerySpec
  | .object members => {
      filter := filterOrEmpty (members.lookup "filter")
      additionalFilter := filterOrEmpty (members.lookup "additionalFilter")
      attributes := stringList (members.lookup "attributes")
      page := ((members.lookup "page").bind positiveNumber?).getD defaultPage
      perPage := ((members.lookup "perPage").bind positiveNumber?).getD defaultPerPage
      allPage := ((members.lookup "allPage").bind Json.bool?).getD false
      orderBy := stringList (members.lookup "orderBy")
      expands := ((members.lookup "expands").map ExpandEntry.ofList).getD [] }
  | _ => default

def ofText (text : String) : Except ReadError QuerySpec :=
  (Json.parse text).map ofJson

end QuerySpec

end QueryCompiler
