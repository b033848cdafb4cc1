import QueryCompiler.Json.Printer
import QueryCompiler.Predicate.Basic

/-!
# Filter expressions

In the filter dialect an object lists conditions on fields, under the names of
the fields, and `$and`, `$or` and `$not` join further conditions.  `Filter.translate` takes an
expression to a predicate or to its first fault.
-/

namespace QueryCompiler

/-- Why a filter expression has no predicate. -/
inductive FilterError where
  | malformed (reason : String)
  | unknownOperator (name : String)
  | invalidOperand (operator reason : String)
  deriving DecidableEq, Repr

def FilterError.message : FilterError → String
  | .malformed reason => "Malformed filter expression: " ++ reason
  | .unknownOperator name => "Unknown operator: " ++ name
  | .invalidOperand operator reason => "Invalid operand for " ++ operator ++ ": " ++ reason

/-- A way to take filter expressions to predicates. -/
abbrev FilterTranslator := Json → Except FilterError Predicate

namespace Filter

/-! ## Faults -/

def notAnObject (found : Json) : FilterError :=
  .malformed ("expected an object, got " ++ found.compact)

def operandNotAnObject (operator : String) (found : Json) : FilterError :=
  .invalidOperand operator ("expected an object, got " ++ found.compact)

def operandNotAList (operator : String) (found : Json) : FilterError :=
  .invalidOperand operator ("expected a list, got " ++ found.compact)

def unexpectedOperand (operator : String) (found : Json) : FilterError :=
  .invalidOperand operator ("unexpected operand " ++ found.compact)

/-! ## Fields -/

/-- Whether a key refers to a field between dollar signs. -/
def isFieldReference (key : String) : Bool :=
  2 < key.utf8ByteSize && key.toList.head? == some '$' && key.toList.getLast? == some '$'

/-- Whether a key begins like an operator without being a field reference. -/
def isOperatorLike (key : String) : Bool :=
  key.toList.head? == some '$' && !isFieldReference key

def operators : List (String × Comparison) :=
  [("$eq", .eq), ("$ne", .ne), ("$gt", .gt), ("$gte", .gte), ("$lt", .lt), ("$lte", .lte),
    ("$in", .isIn), ("$notIn", .notIn), ("$like", .like), ("$notLike", .notLike),
    ("$iLike", .iLike), ("$is", .is), ("$not", .isNot), ("$between", .between),
    ("$notBetween", .notBetween)]

/-- The comparison of an operator.  Equality with null is identity with it. -/
def comparisonFor? (operator : String) (operand : Json) : Option Comparison :=
  (operators.lookup operator).map fun comparison =>
    match comparison with
    | .eq => if operand.isNull then .is else .eq
    | .ne => if operand.isNull then .isNot else .ne
    | other => other

/-- Whether a value has the shape that a comparison takes. -/
def takesOperand : Comparison → Json → Bool
  | .isIn, .array _ | .notIn, .array _ => true
  | .between, .array [_, _] | .notBetween, .array [_, _] => true
  | .like, .string _ | .notLike, .string _ | .iLike, .string _ => true
  | .is, .null | .isNot, .null => true
  | .is, .bool _ | .isNot, .bool _ => true
  | .gt, .number _ | .gte, .number _ | .lt, .number _ | .lte, .number _ => true
  | .gt, .string _ | .gte, .string _ | .lt, .string _ | .lte, .string _ => true
  | .gt, .bool _ | .gte, .bool _ | .lt, .bool _ | .lte, .bool _ => true
  | .eq, .array _ | .eq, .object _ | .ne, .array _ | .ne, .object _ => false
  | .eq, _ | .ne, _ => true
  | _, _ => false

def translateOperator (field operator : String) (operand : Json) :
    Except FilterError Predicate :=
  match comparisonFor? operator operand with
  | none => .error (.unknownOperator operator)
  | some comparison =>
      if takesOperand comparison operand then .ok (.compare field comparison operand)
      else .error (unexpectedOperand operator operand)

def translateOperators (field : String) : List (String × Json) →
    Except FilterError (List Predicate)
  | [] => .ok []
  | (operator, operand) :: members => do
      let condition ← translateOperator field operator operand
      let conditions ← translateOperators field members
      return condition :: conditions

/-- Conditions that must hold together.  None is always met, and one stands for
itself. -/
def conjunction : List Predicate → Predicate
  | [] => .always
  | [operand] => operand
  | operands => .all operands

/-- The condition on a field: null, a list or another plain value are compared
with it, and an object holds operators. -/
def translateField (field : String) : Json → Except FilterError Predicate
  | .null => .ok (.compare field .is .null)
  | .array items => .ok (.compare field .isIn (.array items))
  | .object members => (translateOperators field members).map conjunction
  | scalar => .ok (.compare field .eq scalar)

/-! ## Expressions -/

mutual

def translateMembers : List (String × Json) → Except FilterError (List Predicate)
  | [] => .ok []
  | (key, value) :: members => do
      let condition ← translateMember key value
      let conditions ← translateMembers members
      return condition :: conditions

def translateMember (key : String) (value : Json) : Except FilterError Predicate :=
  if key = "$and" then (translateList key value).map .all
  else if key = "$or" then (translateList key value).map .any
  else if key = "$not" then (translateNested key value).map .negation
  else if isOperatorLike key then .error (.unknownOperator key)
  else translateField key value

/-- The conditions that `$and` or `$or` joins: a list of expressions, or an object
with a condition in each member. -/
def translateList (operator : String) : Json → Except FilterError (List Predicate)
  | .array items => translateItems operator items
  | .object members => translateMembers members
  | other => .error (operandNotAList operator other)

def translateItems (operator : String) : List Json → Except FilterError (List Predicate)
  | [] => .ok []
  | item :: items => do
      let condition ← translateNested operator item
      let conditions ← translateItems operator items
      return condition :: conditions

def translateNested (operator : String) : Json → Except FilterError Predicate
  | .object members => (translateMembers members).map conjunction
  | other => .error (operandNotAnObject operator other)

end

def translate : FilterTranslator
  | .null => .ok .always
  | .object members => (translateMembers members).map conjunction
  | other => .error (notAnObject other)

/-! ## Composition -/

/-- A base condition, a filter and an additional filter side by side.  Neither
filter can take the place of the other. -/
def compose (translator : FilterTranslator) (base : Option Predicate)
    (filter additional : Json) : Except FilterError Predicate := do
  let filter ← translator filter
  let additional ← translator additional
  return .all (base.toList ++ [filter, additional])

def translateEmptyOnly : FilterTranslator
  | .object [] => .ok .always
  | _ => .error (.malformed "unsupported")

end Filter

end QueryCompiler
