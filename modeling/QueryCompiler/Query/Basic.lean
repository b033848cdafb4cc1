import QueryCompiler.Json.Basic
import QueryCompiler.Relation.Basic

/-!
# Query specifications

A specification says what a caller asks for: filters, columns, a page, an order
and associations to include.  Every specification in use comes from raw input
(`QuerySpec.ofJson`) or from a builder (`QueryBuilder.build`).
-/

namespace QueryCompiler

/-- The options of an association that is asked for by more than its name. -/
structure ExpandRequest where
  name : Option String
  modelName : Option String
  condition : Option Json
  isRequired : Option Bool
  limit : Option UInt64
  separate : Option Bool
  order : List String
  attributes : Option Json

inductive ExpandEntry where
  | name (association : String)
  | request (wanted : ExpandRequest) (nested : List ExpandEntry)
  /-- Anything else, kept so that it can be reported. -/
  | invalid (raw : Json)

structure QuerySpec where
  filter : Json
  additionalFilter : Json
  attributes : List String
  page : UInt64
  perPage : UInt64
  allPage : Bool
  orderBy : List String
  expands : List ExpandEntry

namespace QuerySpec

def defaultPage : UInt64 := 1

def defaultPerPage : UInt64 := 20

def emptyFilter : Json := .object []

/-- The specification that asks for nothing in particular. -/
def default : QuerySpec where
  filter := emptyFilter
  additionalFilter := emptyFilter
  attributes := []
  page := defaultPage
  perPage := defaultPerPage
  allPage := false
  orderBy := []
  expands := []

/-- How many rows come before the page, and the largest natural of 64 bits if
they are more. -/
def offset (spec : QuerySpec) : UInt64 :=
  .ofNat (min ((spec.page.toNat - 1) * spec.perPage.toNat) (UInt64.size - 1))

theorem toNat_offset (spec : QuerySpec) :
    spec.offset.toNat =
      min ((spec.page.toNat - 1) * spec.perPage.toNat) (UInt64.size - 1) := by
  have largest : UInt64.size - 1 < UInt64.size := by decide
  exact UInt64.toNat_ofNat_of_lt' (Nat.lt_of_le_of_lt (Nat.min_le_right _ _) largest)

end QuerySpec

/-! ## Specifications as JSON -/

namespace ExpandRequest

/-- The members of a request before its nested entries. -/
def toMembers (request : ExpandRequest) : Json.Members :=
  optionalMember "name" .string request.name ++
    optionalMember "modelName" .string request.modelName ++
    optionalMember "where" id request.condition ++
    optionalMember "required" .bool request.isRequired ++
    optionalMember "limit" Json.ofUInt64 request.limit ++
    optionalMember "separate" .bool request.separate ++
    listMember "order" (request.order.map .string) ++
    optionalMember "attributes" id request.attributes

end ExpandRequest

namespace ExpandEntry

mutual

def toJson : ExpandEntry → Json
  | .name association => .string association
  | .request wanted nested =>
      .object (wanted.toMembers ++ listMember "expands" (toJsonItems nested))
  | .invalid raw => raw

def toJsonItems : List ExpandEntry → List Json
  | [] => []
  | entry :: entries => toJson entry :: toJsonItems entries

end

end ExpandEntry

def QuerySpec.toMembers (spec : QuerySpec) : Json.Members :=
  [("filter", spec.filter), ("additionalFilter", spec.additionalFilter),
    ("attributes", Json.ofStrings spec.attributes), ("page", Json.ofUInt64 spec.page),
    ("perPage", Json.ofUInt64 spec.perPage), ("allPage", .bool spec.allPage),
    ("orderBy", Json.ofStrings spec.orderBy),
    ("expands", .array (ExpandEntry.toJsonItems spec.expands))]

def QuerySpec.toJson (spec : QuerySpec) : Json :=
  .object spec.toMembers

end QueryCompiler
