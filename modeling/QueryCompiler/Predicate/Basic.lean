import QueryCompiler.Json.Basic

/-!
# Predicates

The conditions on records that a query descriptor carries: comparisons of a
field with a value, joined by conjunction, disjunction and negation.
-/

namespace QueryCompiler

inductive Comparison where
  | eq
  | ne
  | gt
  | gte
  | lt
  | lte
  | isIn
  | notIn
  | like
  | notLike
  | iLike
  | is
  | isNot
  | between
  | notBetween
  deriving DecidableEq, Repr

/-- A condition on records.  Operands are kept in order. -/
inductive Predicate where
  | always
  | all (operands : List Predicate)
  | any (operands : List Predicate)
  | negation (operand : Predicate)
  | compare (field : String) (comparison : Comparison) (value : Json)
  deriving Inhabited

end QueryCompiler
