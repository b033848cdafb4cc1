import QueryCompiler.Json.Basic
import QueryCompiler.Relation.Basic

/-!
# Diagnostics

A diagnostic records a part of a query that the compiler dropped or weakened.
-/

namespace QueryCompiler

/-- A part of a query that was dropped or weakened. -/
inductive Diagnostic where
  /-- A sort token that names no column; dropped. -/
  | invalidSortToken (token reason : String)
  /-- A sort token with an unknown relation; kept as a term on its column. -/
  | unresolvedOrderRelation (token relation : String)
  /-- A structured association without a name; dropped. -/
  | missingExpandName (entry : String)
  /-- An association that is unknown by its model and its name; dropped. -/
  | unresolvedExpand (name : String) (modelName : Option String)
  /-- An association that is neither a name nor an object; dropped. -/
  | invalidExpandShape (entry : String)
  /-- A base option under a key that only the compiler writes; dropped. -/
  | reservedOption (key : String)
  deriving DecidableEq, Repr

namespace Diagnostic

/-- A diagnostic as a value, told apart by its `kind`. -/
def toJson : Diagnostic → Json
  | .invalidSortToken token reason =>
      .object [("kind", .string "invalid_sort_token"), ("token", .string token),
        ("reason", .string reason)]
  | .unresolvedOrderRelation token relation =>
      .object [("kind", .string "unresolved_order_relation"), ("token", .string token),
        ("relation", .string relation)]
  | .missingExpandName entry =>
      .object [("kind", .string "missing_expand_name"), ("entry", .string entry)]
  | .unresolvedExpand name modelName =>
      .object [("kind", .string "unresolved_expand"), ("name", .string name),
        ("model_name", (modelName.map Json.string).getD .null)]
  | .invalidExpandShape entry =>
      .object [("kind", .string "invalid_expand_shape"), ("entry", .string entry)]
  | .reservedOption key =>
      .object [("kind", .string "reserved_option"), ("key", .string key)]

def entriesToJson (diagnostics : List Diagnostic) : Json :=
  .array (diagnostics.map toJson)

end Diagnostic

end QueryCompiler
