import Mathlib
import QueryCompiler.Proofs.Filter.Dialect

/-!
# The comparisons of a predicate

A filter expression sets conditions on fields: a plain value under a field is one, and
so is each operator on it.  `conditions` lists them in document order, and
`Predicate.comparisons` lists the comparisons of a predicate from left to right.  The
predicate of an expression compares once for each condition, in the same order, and
every comparison carries a value of its shape.
-/

namespace QueryCompiler

/-! ## Comparisons -/

/-- A comparison within a predicate. -/
structure Comparing where
  field : String
  comparison : Comparison
  value : Json

namespace Predicate

mutual

/-- The comparisons of a predicate from left to right. -/
def comparisons : Predicate → List Comparing
  | .always => []
  | .all operands => comparisonsOfItems operands
  | .any operands => comparisonsOfItems operands
  | .negation operand => comparisons operand
  | .compare field comparison value => [⟨field, comparison, value⟩]

def comparisonsOfItems : List Predicate → List Comparing
  | [] => []
  | operand :: operands => comparisons operand ++ comparisonsOfItems operands

end

end Predicate

/-- A key of an object, within a value at any depth. -/
inductive Json.HasKey (key : String) : Json → Prop
  | here {value : Json} {members : List (String × Json)} (member : (key, value) ∈ members) :
      HasKey key (.object members)
  | value {other : String} {value : Json} {members : List (String × Json)}
      (member : (other, value) ∈ members) (within : HasKey key value) :
      HasKey key (.object members)
  | item {item : Json} {items : List Json} (member : item ∈ items) (within : HasKey key item) :
      HasKey key (.array items)

namespace Filter

open Json

/-! ## Conditions of an expression -/

/-- A condition on a field: a plain value, or an operator with its operand. -/
structure Condition where
  field : String
  operator : Option String
  operand : Json

/-- How the value of the field is compared with the operand. -/
def Condition.comparison? (condition : Condition) : Option Comparison :=
  match condition.operator, condition.operand with
  | some operator, operand => comparisonFor? operator operand
  | none, .null => some .is
  | none, .array _ => some .isIn
  | none, _ => some .eq

/-- The conditions that are written under a field. -/
def fieldConditions (field : String) : Json → List Condition
  | .object members => members.map fun member => ⟨field, some member.1, member.2⟩
  | value => [⟨field, none, value⟩]

instance (key : String) : Decidable (Joins key) :=
  inferInstanceAs (Decidable (key = "$and" ∨ key = "$or"))

mutual

/-- The conditions of an expression in document order. -/
def conditions : Json → List Condition
  | .object members => entriesConditions members
  | _ => []

def entryConditions (key : String) (value : Json) : List Condition :=
  if Joins key then joinedConditions value
  else if key = "$not" then conditions value
  else fieldConditions key value

def entriesConditions : List (String × Json) → List Condition
  | [] => []
  | (key, value) :: members => entryConditions key value ++ entriesConditions members

def joinedConditions : Json → List Condition
  | .array items => itemsConditions items
  | .object members => entriesConditions members
  | _ => []

def itemsConditions : List Json → List Condition
  | [] => []
  | item :: items => conditions item ++ itemsConditions items

end

/-! ## Conditions become comparisons -/

/-- What a condition becomes: a comparison of its field with its operand, whose field is
no operator and whose value is of the shape that the comparison carries. -/
structure Condition.Becomes (condition : Condition) (comparing : Comparing) : Prop where
  field : comparing.field = condition.field
  value : comparing.value = condition.operand
  comparison : condition.comparison? = some comparing.comparison
  named : NamesField comparing.field
  shaped : (valueShape comparing.comparison).Admits comparing.value

private theorem comparisons_conjunction (predicates : List Predicate) :
    (conjunction predicates).comparisons = Predicate.comparisonsOfItems predicates := by
  match predicates with
  | [] => rfl
  | [predicate] => simp [conjunction, Predicate.comparisonsOfItems]
  | _ :: _ :: _ => rfl

private theorem becomes_of_translateOperators {field : String} (names : NamesField field)
    {members : List (String × Json)} {predicates : List Predicate}
    (translated : translateOperators field members = .ok predicates) :
    List.Forall₂ Condition.Becomes (fieldConditions field (.object members))
      (Predicate.comparisonsOfItems predicates) := by
  induction members generalizing predicates with
  | nil =>
      cases translated
      exact .nil
  | cons member members inductionHypothesis =>
      rw [translateOperators] at translated
      obtain ⟨first, rest, firstTranslated, restTranslated, rfl⟩ :=
        Outcome.cons_eq_ok.mp translated
      have taken := translateOperator_accepts.mp ⟨first, firstTranslated⟩
      obtain ⟨comparison, found, shaped, compared⟩ := translateOperator_of_admits field taken
      rw [compared] at firstTranslated
      cases firstTranslated
      have restBecome := inductionHypothesis restTranslated
      exact .cons ⟨rfl, rfl, found, names, shaped⟩ restBecome

private theorem becomes_of_translateField {field : String} (names : NamesField field) {value : Json}
    {predicate : Predicate} (translated : translateField field value = .ok predicate) :
    List.Forall₂ Condition.Becomes (fieldConditions field value) predicate.comparisons := by
  cases value with
  | object members =>
      obtain ⟨predicates, operatorsTranslated, rfl⟩ := Outcome.map_eq_ok.mp translated
      rw [comparisons_conjunction]
      exact becomes_of_translateOperators names operatorsTranslated
  | null =>
      cases translated
      exact .cons ⟨rfl, rfl, rfl, names, .inl rfl⟩ .nil
  | array items =>
      cases translated
      exact .cons ⟨rfl, rfl, rfl, names, items, rfl⟩ .nil
  | number number =>
      cases translated
      exact .cons ⟨rfl, rfl, rfl, names, .inl ⟨number, rfl⟩⟩ .nil
  | string text =>
      cases translated
      exact .cons ⟨rfl, rfl, rfl, names, .inr (.inl ⟨text, rfl⟩)⟩ .nil
  | bool truth =>
      cases translated
      exact .cons ⟨rfl, rfl, rfl, names, .inr (.inr ⟨truth, rfl⟩)⟩ .nil

/-- The conditions of an entry become the comparisons of its predicate, given the same of
what it joins or negates. -/
theorem becomes_of_translateMember {key : String} {value : Json} {predicate : Predicate}
    (nested : ∀ {operand : Predicate}, translateNested key value = .ok operand →
      List.Forall₂ Condition.Becomes (conditions value) operand.comparisons)
    (joined : ∀ {operands : List Predicate}, translateList key value = .ok operands →
      List.Forall₂ Condition.Becomes (joinedConditions value)
        (Predicate.comparisonsOfItems operands))
    (translated : translateMember key value = .ok predicate) :
    List.Forall₂ Condition.Becomes (entryConditions key value) predicate.comparisons := by
  cases of_translateMember translated with
  | all isAnd listTranslated =>
      rw [entryConditions, if_pos (.inl isAnd)]
      exact joined listTranslated
  | any isOr listTranslated =>
      rw [entryConditions, if_pos (.inr isOr)]
      exact joined listTranslated
  | negation isNot operandTranslated =>
      subst isNot
      rw [entryConditions, if_neg not_joins_not, if_pos rfl, Predicate.comparisons]
      exact nested operandTranslated
  | field notAnd notOr notNot plain fieldTranslated =>
      have notJoins : ¬ Joins key := not_or.mpr ⟨notAnd, notOr⟩
      rw [entryConditions, if_neg notJoins, if_neg notNot]
      exact becomes_of_translateField (isOperatorLike_eq_false_iff.mp plain) fieldTranslated

mutual

private theorem becomes_of_translateMembers :
    ∀ {members : List (String × Json)} {predicates : List Predicate},
      translateMembers members = .ok predicates →
        List.Forall₂ Condition.Becomes (entriesConditions members)
          (Predicate.comparisonsOfItems predicates)
  | [], _, translated => by
      rw [translateMembers] at translated
      cases translated
      rw [entriesConditions]
      exact .nil
  | (key, value) :: members, _, translated => by
      rw [translateMembers] at translated
      obtain ⟨first, rest, firstTranslated, restTranslated, rfl⟩ :=
        Outcome.cons_eq_ok.mp translated
      have firstBecome := becomes_of_translateMember
        (fun translated => becomes_of_translateNested translated)
        (fun translated => becomes_of_translateList translated) firstTranslated
      have restBecome := becomes_of_translateMembers restTranslated
      rw [entriesConditions]
      exact List.rel_append firstBecome restBecome

private theorem becomes_of_translateList {key : String} :
    ∀ {value : Json} {predicates : List Predicate},
      translateList key value = .ok predicates →
        List.Forall₂ Condition.Becomes (joinedConditions value)
          (Predicate.comparisonsOfItems predicates)
  | .array items, _, translated => by
      rw [translateList] at translated
      rw [joinedConditions]
      exact becomes_of_translateItems translated
  | .object members, _, translated => by
      rw [translateList] at translated
      rw [joinedConditions]
      exact becomes_of_translateMembers translated
  | .null, _, translated | .bool _, _, translated | .number _, _, translated
  | .string _, _, translated => by simp [translateList] at translated

private theorem becomes_of_translateItems {key : String} :
    ∀ {items : List Json} {predicates : List Predicate},
      translateItems key items = .ok predicates →
        List.Forall₂ Condition.Becomes (itemsConditions items)
          (Predicate.comparisonsOfItems predicates)
  | [], _, translated => by
      rw [translateItems] at translated
      cases translated
      rw [itemsConditions]
      exact .nil
  | item :: items, _, translated => by
      rw [translateItems] at translated
      obtain ⟨first, rest, firstTranslated, restTranslated, rfl⟩ :=
        Outcome.cons_eq_ok.mp translated
      have firstBecome := becomes_of_translateNested firstTranslated
      have restBecome := becomes_of_translateItems restTranslated
      rw [itemsConditions]
      exact List.rel_append firstBecome restBecome

private theorem becomes_of_translateNested {key : String} :
    ∀ {value : Json} {predicate : Predicate},
      translateNested key value = .ok predicate →
        List.Forall₂ Condition.Becomes (conditions value) predicate.comparisons
  | .object members, _, translated => by
      rw [translateNested] at translated
      obtain ⟨predicates, membersTranslated, rfl⟩ := Outcome.map_eq_ok.mp translated
      rw [comparisons_conjunction, conditions]
      exact becomes_of_translateMembers membersTranslated
  | .null, _, translated | .bool _, _, translated | .number _, _, translated
  | .string _, _, translated | .array _, _, translated => by
      simp [translateNested] at translated

end

theorem becomes_of_translate {expression : Json} {predicate : Predicate}
    (translated : translate expression = .ok predicate) :
    List.Forall₂ Condition.Becomes (conditions expression) predicate.comparisons := by
  cases expression with
  | null =>
      cases translated
      simp [conditions, Predicate.comparisons]
  | object members =>
      obtain ⟨predicates, membersTranslated, rfl⟩ := Outcome.map_eq_ok.mp translated
      rw [comparisons_conjunction, conditions]
      exact becomes_of_translateMembers membersTranslated
  | _ => cases translated

/-! ## Fields are keys -/

private theorem field_of_mem_fieldConditions {key : String} {value : Json} {condition : Condition}
    (member : condition ∈ fieldConditions key value) : condition.field = key := by
  cases value with
  | object members =>
      obtain ⟨operator, _, rfl⟩ := List.mem_map.mp member
      rfl
  | _ =>
      simp only [fieldConditions, List.mem_singleton] at member
      rw [member]

/-- The field of a condition is the key of an entry, or a key within its value. -/
theorem field_of_mem_entryConditions {key : String} {value : Json} {condition : Condition}
    (nested : condition ∈ conditions value → value.HasKey condition.field)
    (joined : condition ∈ joinedConditions value → value.HasKey condition.field)
    (member : condition ∈ entryConditions key value) :
    condition.field = key ∨ value.HasKey condition.field := by
  rw [entryConditions] at member
  by_cases joins : Joins key
  · rw [if_pos joins] at member
    exact .inr (joined member)
  rw [if_neg joins] at member
  by_cases isNot : key = "$not"
  · rw [if_pos isNot] at member
    exact .inr (nested member)
  · rw [if_neg isNot] at member
    exact .inl (field_of_mem_fieldConditions member)

mutual

private theorem hasKey_of_mem_conditions {condition : Condition} :
    ∀ {expression : Json}, condition ∈ conditions expression → expression.HasKey condition.field
  | .object members, member => by
      rw [conditions] at member
      rcases hasKey_of_mem_entriesConditions member with ⟨value, here⟩ | ⟨entry, here, within⟩
      · exact .here here
      · exact .value here within
  | .null, member | .bool _, member | .number _, member | .string _, member
  | .array _, member => by simp [conditions] at member

private theorem hasKey_of_mem_entriesConditions {condition : Condition} :
    ∀ {members : List (String × Json)}, condition ∈ entriesConditions members →
      (∃ value, (condition.field, value) ∈ members) ∨
        ∃ entry, entry ∈ members ∧ entry.2.HasKey condition.field
  | [], member => by simp [entriesConditions] at member
  | (key, value) :: members, member => by
      rw [entriesConditions] at member
      rcases List.mem_append.mp member with first | rest
      · have found := field_of_mem_entryConditions (fun member => hasKey_of_mem_conditions member)
          (fun member => hasKey_of_mem_joinedConditions member) first
        rcases found with rfl | within
        · exact .inl ⟨value, List.mem_cons_self⟩
        · exact .inr ⟨(key, value), List.mem_cons_self, within⟩
      · rcases hasKey_of_mem_entriesConditions rest with ⟨value, here⟩ | ⟨entry, here, within⟩
        · exact .inl ⟨value, List.mem_cons_of_mem _ here⟩
        · exact .inr ⟨entry, List.mem_cons_of_mem _ here, within⟩

private theorem hasKey_of_mem_joinedConditions {condition : Condition} :
    ∀ {value : Json}, condition ∈ joinedConditions value → value.HasKey condition.field
  | .array items, member => by
      rw [joinedConditions] at member
      obtain ⟨item, here, within⟩ := hasKey_of_mem_itemsConditions member
      exact .item here within
  | .object members, member => by
      rw [joinedConditions] at member
      rcases hasKey_of_mem_entriesConditions member with ⟨value, here⟩ | ⟨entry, here, within⟩
      · exact .here here
      · exact .value here within
  | .null, member | .bool _, member | .number _, member | .string _, member => by
      simp [joinedConditions] at member

private theorem hasKey_of_mem_itemsConditions {condition : Condition} :
    ∀ {items : List Json}, condition ∈ itemsConditions items →
      ∃ item, item ∈ items ∧ item.HasKey condition.field
  | [], member => by simp [itemsConditions] at member
  | item :: items, member => by
      rw [itemsConditions] at member
      rcases List.mem_append.mp member with first | rest
      · exact ⟨item, List.mem_cons_self, hasKey_of_mem_conditions first⟩
      · obtain ⟨other, here, within⟩ := hasKey_of_mem_itemsConditions rest
        exact ⟨other, List.mem_cons_of_mem _ here, within⟩

end

/-! ## Every condition is compared once -/

private theorem exists_mem_of_forall₂ {α β : Type} {relation : α → β → Prop} {lefts : List α}
    {rights : List β} (related : List.Forall₂ relation lefts rights) :
    ∀ right ∈ rights, ∃ left ∈ lefts, relation left right := by
  induction related with
  | nil => exact List.forall_mem_nil _
  | cons first rest inductionHypothesis =>
      intro right member
      rcases List.mem_cons.mp member with rfl | member
      · exact ⟨_, List.mem_cons_self, first⟩
      · obtain ⟨left, leftMember, holds⟩ := inductionHypothesis right member
        exact ⟨left, List.mem_cons_of_mem _ leftMember, holds⟩

/-- Every comparison of a translated expression is of a key of the expression that names a
field, with a value of the shape that the comparison carries, and from left to right the
comparisons are the conditions of the expression in document order. -/
theorem comparisons_of_translate {expression : Json} {predicate : Predicate}
    (translated : translate expression = .ok predicate) :
    (∀ comparing ∈ predicate.comparisons,
        expression.HasKey comparing.field ∧ NamesField comparing.field ∧
          (valueShape comparing.comparison).Admits comparing.value) ∧
      List.Forall₂ Condition.Becomes (conditions expression) predicate.comparisons := by
  have become := becomes_of_translate translated
  refine ⟨?_, become⟩
  intro comparing member
  obtain ⟨condition, listed, becomes⟩ := exists_mem_of_forall₂ become comparing member
  have key : expression.HasKey comparing.field := by
    rw [becomes.field]
    exact hasKey_of_mem_conditions listed
  exact ⟨key, becomes.named, becomes.shaped⟩

/-- Conditions in a list, under a negation and in an object that is joined, with an
equality with null. -/
theorem comparisons_of_translate_joined :
    let two : Json := ofUInt64 2
    let nine : Json := ofUInt64 9
    let expression : Json := .object
      [("$or", .array
          [.object [("a", two)], .object [("$b.c$", .object [("$gte", two), ("$lt", nine)])]]),
        ("$not", .object [("$and", .object [("d", .null)])]),
        ("e", .object [("$ne", .null)])]
    let predicate : Predicate := .all
      [.any [.compare "a" .eq two,
          .all [.compare "$b.c$" .gte two, .compare "$b.c$" .lt nine]],
        .negation (.all [.compare "d" .is .null]), .compare "e" .isNot .null]
    translate expression = .ok predicate ∧
      (∀ comparing ∈ predicate.comparisons,
        expression.HasKey comparing.field ∧ NamesField comparing.field ∧
          (valueShape comparing.comparison).Admits comparing.value) ∧
      List.Forall₂ Condition.Becomes (conditions expression) predicate.comparisons ∧
      predicate.comparisons.map Comparing.field = ["a", "$b.c$", "$b.c$", "d", "e"] := by
  intro two nine expression predicate
  have translated : translate expression = .ok predicate := by cbv
  obtain ⟨each, become⟩ := comparisons_of_translate translated
  exact ⟨translated, each, become, rfl⟩

end Filter

end QueryCompiler
