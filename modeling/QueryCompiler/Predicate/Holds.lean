import QueryCompiler.Predicate.Basic
import QueryCompiler.Text.LowerCase
import QueryCompiler.Text.Pieces
import QueryCompiler.Text.Wildcard
import QueryCompiler.Text.Blank

/-!
# The meaning of predicates

`Predicate.holds` decides whether a record meets a predicate.  A record is an
object.  A field may be a path through nested objects, and a field that the
record lacks reads as null.
-/

namespace QueryCompiler

abbrev Record := List (String × Json)

/-- The keys of a path: the pieces between its dots, without the dollar signs at
its ends. -/
def fieldPath (field : String) : List String :=
  (Text.pieces '.' (Text.trimBoth (· == '$') field.toList)).map String.ofList

/-- Walk from a value through nested objects along a path. -/
def walkPath (value : Json) (path : List String) : Option Json :=
  path.foldlM (fun reached key => reached.member? key) value

/-- The value of a field of a record; null if there is none. -/
def Record.field (record : Record) (field : String) : Json :=
  (walkPath (.object record) (fieldPath field)).getD .null

/-! ## Comparisons -/

namespace Json

/-- The order of two numbers, of two texts or of two truth values. -/
def order? : Json → Json → Option Ordering
  | .number left, .number right => some (left.compare right)
  | .string left, .string right => some (Ord.compare left right)
  | .bool left, .bool right => some (Ord.compare left right)
  | _, _ => none

/-- Equality as comparisons see it: nothing equals null, and numbers of
different kinds are equal when they have one order. -/
def looselyEqual (left right : Json) : Bool :=
  if left.isNull || right.isNull then false
  else left.order? right == some .eq || left.same right

def isAmong (value : Json) : Json → Bool
  | .array items => items.any value.looselyEqual
  | _ => false

def atLeast (left right : Json) : Bool :=
  left.order? right == some .gt || left.order? right == some .eq

def atMost (left right : Json) : Bool :=
  left.order? right == some .lt || left.order? right == some .eq

/-- Whether a value lies between the two items of a list. -/
def isBetween (value : Json) : Json → Bool
  | .array [low, high] => value.atLeast low && value.atMost high
  | _ => false

/-- Whether a text is covered by a pattern, after both were changed. -/
def isLike (change : List Char → List Char) : Json → Json → Bool
  | .string text, .string pattern =>
      Text.wildcardMatches (change pattern.toList) (change text.toList)
  | _, _ => false

def isString : Json → Bool
  | .string _ => true
  | _ => false

end Json

/-- Whether the value of a field stands in a relation to another value. -/
def Comparison.holds : Comparison → Json → Json → Bool
  | .eq, actual, expected => actual.looselyEqual expected
  | .ne, actual, expected => !actual.isNull && !actual.looselyEqual expected
  | .gt, actual, expected => actual.order? expected == some .gt
  | .gte, actual, expected => actual.atLeast expected
  | .lt, actual, expected => actual.order? expected == some .lt
  | .lte, actual, expected => actual.atMost expected
  | .isIn, actual, expected => actual.isAmong expected
  | .notIn, actual, expected => !actual.isNull && !actual.isAmong expected
  | .like, actual, expected => actual.isLike id expected
  | .notLike, actual, expected => actual.isString && !actual.isLike id expected
  | .iLike, actual, expected => actual.isLike Text.lowerCase expected
  | .is, actual, expected => actual.same expected
  | .isNot, actual, expected => !actual.same expected
  | .between, actual, expected => actual.isBetween expected
  | .notBetween, actual, expected => !actual.isNull && !actual.isBetween expected

/-! ## Predicates -/

mutual

def Predicate.holds (record : Record) : Predicate → Bool
  | .always => true
  | .all operands => allHold record operands
  | .any operands => anyHolds record operands
  | .negation operand => !operand.holds record
  | .compare field comparison value => comparison.holds (record.field field) value

def allHold (record : Record) : List Predicate → Bool
  | [] => true
  | operand :: operands => operand.holds record && allHold record operands

def anyHolds (record : Record) : List Predicate → Bool
  | [] => false
  | operand :: operands => operand.holds record || anyHolds record operands

end

/-- Every predicate of a list holds when each one does. -/
theorem allHold_eq_all (record : Record) (operands : List Predicate) :
    allHold record operands = operands.all (Predicate.holds record) := by
  induction operands with
  | nil => rfl
  | cons operand operands inductionHypothesis =>
      simp [allHold, inductionHypothesis]

/-- Some predicate of a list holds when one of them does. -/
theorem anyHolds_eq_any (record : Record) (operands : List Predicate) :
    anyHolds record operands = operands.any (Predicate.holds record) := by
  induction operands with
  | nil => rfl
  | cons operand operands inductionHypothesis =>
      simp [anyHolds, inductionHypothesis]

end QueryCompiler
