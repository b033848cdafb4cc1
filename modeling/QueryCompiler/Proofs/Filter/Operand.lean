import QueryCompiler.Filter.Basic
import QueryCompiler.Proofs.Outcome

/-!
# Fields and operands

Which keys refer to fields, which operators there are, and which operands each of them
takes.  An operator on a field is translated exactly if it takes its operand, and its
comparison is never left with a value of another shape.
-/

namespace QueryCompiler.Filter

open Json

/-! ## Keys of fields -/

/-- A key names a field if it does not begin with a dollar sign, or if it stands between
two of them and has more than two bytes. -/
def NamesField (key : String) : Prop :=
  key.toList.head? ≠ some '$' ∨
    2 < key.utf8ByteSize ∧ ∃ inner, key.toList = '$' :: (inner ++ ['$'])

theorem isFieldReference_iff {key : String} :
    isFieldReference key = true ↔
      2 < key.utf8ByteSize ∧ ∃ inner, key.toList = '$' :: (inner ++ ['$']) := by
  unfold isFieldReference
  rw [Bool.and_eq_true, Bool.and_eq_true, decide_eq_true_eq, beq_iff_eq, beq_iff_eq]
  constructor
  · rintro ⟨⟨long, first⟩, last⟩
    refine ⟨long, ?_⟩
    cases characters : key.toList with
    | nil => simp [characters] at first
    | cons character rest =>
        rw [characters, List.head?_cons, Option.some_inj] at first
        subst first
        by_cases nothing : rest = []
        · -- A single dollar sign is its own end, but it is too short.
          subst nothing
          have alone : key = "$" := String.toList_inj.mp characters
          rw [alone] at long
          exact absurd long (by decide)
        · rw [characters, List.getLast?_cons_of_ne_nil nothing] at last
          obtain ⟨inner, ends⟩ := List.getLast?_eq_some_iff.mp last
          exact ⟨inner, by rw [ends]⟩
  · rintro ⟨long, inner, characters⟩
    refine ⟨⟨long, ?_⟩, ?_⟩
    · simp [characters]
    · rw [characters, ← List.cons_append]
      exact List.getLast?_concat

theorem isOperatorLike_eq_false_iff {key : String} :
    isOperatorLike key = false ↔ NamesField key := by
  unfold isOperatorLike NamesField
  rw [← isFieldReference_iff]
  by_cases dollar : key.toList.head? = some '$'
  · simp [dollar]
  · simp [dollar]

/-! ## Shapes of operands -/

/-- The shapes that operands may have to be of. -/
inductive OperandShape where
  | scalar
  | plain
  | list
  | pair
  | text
  | truth
  deriving DecidableEq, Repr

/-- Which values are of a shape. -/
def OperandShape.Admits : OperandShape → Json → Prop
  | .scalar, value =>
      (∃ number, value = .number number) ∨ (∃ text, value = .string text) ∨
        ∃ truth, value = .bool truth
  | .plain, value => (∀ items, value ≠ .array items) ∧ ∀ members, value ≠ .object members
  | .list, value => ∃ items, value = .array items
  | .pair, value => ∃ low high, value = .array [low, high]
  | .text, value => ∃ text, value = .string text
  | .truth, value => value = .null ∨ ∃ truth, value = .bool truth

def operandShapes : List (String × OperandShape) :=
  [("$eq", .plain), ("$ne", .plain), ("$gt", .scalar), ("$gte", .scalar), ("$lt", .scalar),
    ("$lte", .scalar), ("$in", .list), ("$notIn", .list), ("$like", .text),
    ("$notLike", .text), ("$iLike", .text), ("$is", .truth), ("$not", .truth),
    ("$between", .pair), ("$notBetween", .pair)]

/-- An operator takes an operand of its shape. -/
def TakesOperand (operator : String) (operand : Json) : Prop :=
  ∃ shape, operandShapes.lookup operator = some shape ∧ shape.Admits operand

/-- The shape of the value that a comparison carries. -/
def valueShape : Comparison → OperandShape
  | .eq | .ne | .gt | .gte | .lt | .lte => .scalar
  | .isIn | .notIn => .list
  | .like | .notLike | .iLike => .text
  | .is | .isNot => .truth
  | .between | .notBetween => .pair

/-- The shape of the operand of an operator with a given comparison.  Of the equalities
that is wider than the shape of the value, since they become identities with null. -/
def operandShape : Comparison → OperandShape
  | .eq | .ne => .plain
  | other => valueShape other

private theorem operandShapes_eq :
    operandShapes = operators.map fun entry => (entry.1, operandShape entry.2) := rfl

private theorem lookup_map_snd {α β : Type} (change : α → β) (entries : List (String × α))
    (key : String) :
    (entries.map fun entry => (entry.1, change entry.2)).lookup key =
      (entries.lookup key).map change := by
  induction entries with
  | nil => rfl
  | cons entry entries inductionHypothesis =>
      rw [List.map_cons, List.lookup_cons, List.lookup_cons, inductionHypothesis]
      cases key == entry.1 with
      | true => rfl
      | false => rfl

/-- Equality with null is identity with it. -/
def withOperand (comparison : Comparison) (operand : Json) : Comparison :=
  match comparison with
  | .eq => if operand.isNull then .is else .eq
  | .ne => if operand.isNull then .isNot else .ne
  | other => other

private theorem takesOperand_list {comparison : Comparison} (asked : valueShape comparison = .list)
    (operand : Json) :
    takesOperand comparison operand = true ↔ OperandShape.list.Admits operand := by
  cases comparison <;> cases asked <;> cases operand <;>
    simp [takesOperand, OperandShape.Admits]

private theorem takesOperand_pair {comparison : Comparison} (asked : valueShape comparison = .pair)
    (operand : Json) :
    takesOperand comparison operand = true ↔ OperandShape.pair.Admits operand := by
  have ofItems : ∀ items : List Json, takesOperand comparison (.array items) = true ↔
      ∃ low high, items = [low, high] := by
    intro items
    match items with
    | [] => cases comparison <;> cases asked <;> simp [takesOperand]
    | [_] => cases comparison <;> cases asked <;> simp [takesOperand]
    | [_, _] => cases comparison <;> cases asked <;> simp [takesOperand]
    | _ :: _ :: _ :: _ => cases comparison <;> cases asked <;> simp [takesOperand]
  cases operand with
  | array items => simpa [OperandShape.Admits] using ofItems items
  | _ => cases comparison <;> cases asked <;> simp [takesOperand, OperandShape.Admits]

/-- With the null of an equality rewritten, the check of an operand is that of its shape. -/
theorem takesOperand_withOperand_iff (comparison : Comparison) (operand : Json) :
    takesOperand (withOperand comparison operand) operand = true ↔
      (operandShape comparison).Admits operand := by
  cases comparison with
  | isIn => exact takesOperand_list rfl operand
  | notIn => exact takesOperand_list rfl operand
  | between => exact takesOperand_pair rfl operand
  | notBetween => exact takesOperand_pair rfl operand
  | _ =>
      cases operand <;>
        simp [withOperand, takesOperand, operandShape, valueShape, OperandShape.Admits,
          Json.isNull]

/-- What an equality does not admit any more once null is rewritten. -/
theorem admits_withOperand {comparison : Comparison} {operand : Json}
    (admitted : (operandShape comparison).Admits operand) :
    (valueShape (withOperand comparison operand)).Admits operand := by
  cases comparison with
  | eq =>
      cases operand <;>
        simp [withOperand, operandShape, valueShape, OperandShape.Admits, Json.isNull] at admitted ⊢
  | ne =>
      cases operand <;>
        simp [withOperand, operandShape, valueShape, OperandShape.Admits, Json.isNull] at admitted ⊢
  | _ => exact admitted

/-! ## Operators on a field -/

private theorem comparisonFor?_eq (operator : String) (operand : Json) :
    comparisonFor? operator operand =
      (operators.lookup operator).map fun comparison => withOperand comparison operand := rfl

private theorem lookup_operandShapes (operator : String) :
    operandShapes.lookup operator = (operators.lookup operator).map operandShape := by
  rw [operandShapes_eq, lookup_map_snd]

theorem translateOperator_of_unknown (field : String) {operator : String} (operand : Json)
    (unknown : operandShapes.lookup operator = none) :
    translateOperator field operator operand = .error (.unknownOperator operator) := by
  rw [lookup_operandShapes, Option.map_eq_none_iff] at unknown
  rw [translateOperator, comparisonFor?_eq, unknown]
  rfl

theorem translateOperator_of_admits (field : String) {operator : String} {operand : Json}
    (taken : TakesOperand operator operand) :
    ∃ comparison, comparisonFor? operator operand = some comparison ∧
      (valueShape comparison).Admits operand ∧
      translateOperator field operator operand = .ok (.compare field comparison operand) := by
  obtain ⟨shape, known, admitted⟩ := taken
  rw [lookup_operandShapes, Option.map_eq_some_iff] at known
  obtain ⟨comparison, listed, rfl⟩ := known
  have checked := (takesOperand_withOperand_iff comparison operand).mpr admitted
  have found : comparisonFor? operator operand = some (withOperand comparison operand) := by
    rw [comparisonFor?_eq, listed]
    rfl
  refine ⟨withOperand comparison operand, found, admits_withOperand admitted, ?_⟩
  simp [translateOperator, found, checked]

theorem translateOperator_of_refused (field : String) {operator : String} {operand : Json}
    {shape : OperandShape} (known : operandShapes.lookup operator = some shape)
    (refused : ¬ shape.Admits operand) :
    translateOperator field operator operand = .error (unexpectedOperand operator operand) := by
  rw [lookup_operandShapes, Option.map_eq_some_iff] at known
  obtain ⟨comparison, listed, rfl⟩ := known
  have unchecked := mt (takesOperand_withOperand_iff comparison operand).mp refused
  have found : comparisonFor? operator operand = some (withOperand comparison operand) := by
    rw [comparisonFor?_eq, listed]
    rfl
  simp [translateOperator, found, unchecked]

end QueryCompiler.Filter
