import Mathlib
import QueryCompiler.Predicate.Holds
import QueryCompiler.Proofs.Filter.Translate

/-!
# The meaning of filter expressions

`Filter.eval` interprets an expression on a record by itself, without a predicate:
the truth values of the entries of an object are taken in their order and joined
by what the object stands under.  `holds_translate` says that the predicate of an
expression means the same, however deep the expression is.
-/

namespace QueryCompiler.Filter

open Json

/-! ## Interpreting an expression -/

/-- Whether an operator holds between the value of a field and an operand.
Equality with null is identity with it. -/
def operatorHolds (actual operand : Json) : String → Bool
  | "$eq" =>
      match operand with
      | .null => Comparison.is.holds actual .null
      | _ => Comparison.eq.holds actual operand
  | "$ne" =>
      match operand with
      | .null => Comparison.isNot.holds actual .null
      | _ => Comparison.ne.holds actual operand
  | "$gt" => Comparison.gt.holds actual operand
  | "$gte" => Comparison.gte.holds actual operand
  | "$lt" => Comparison.lt.holds actual operand
  | "$lte" => Comparison.lte.holds actual operand
  | "$in" => Comparison.isIn.holds actual operand
  | "$notIn" => Comparison.notIn.holds actual operand
  | "$like" => Comparison.like.holds actual operand
  | "$notLike" => Comparison.notLike.holds actual operand
  | "$iLike" => Comparison.iLike.holds actual operand
  | "$is" => Comparison.is.holds actual operand
  | "$not" => Comparison.isNot.holds actual operand
  | "$between" => Comparison.between.holds actual operand
  | "$notBetween" => Comparison.notBetween.holds actual operand
  | _ => false

/-- Whether what is written under a field holds of the value of the field. -/
def fieldHolds (actual : Json) : Json → Bool
  | .null => Comparison.is.holds actual .null
  | .array items => Comparison.isIn.holds actual (.array items)
  | .object operators =>
      operators.all fun operator => operatorHolds actual operator.2 operator.1
  | scalar => Comparison.eq.holds actual scalar

mutual

/-- Whether an expression holds of a record.  Null does, and an object does when each
of its entries does. -/
def eval (record : Record) : Json → Bool
  | .null => true
  | .object entries => (entryValues record entries).all id
  | _ => false

/-- The truth value of one entry of an object. -/
def entryValue (record : Record) (key : String) (value : Json) : Bool :=
  if key = "$and" then (joinedValues record value).all id
  else if key = "$or" then (joinedValues record value).any id
  else if key = "$not" then !eval record value
  else fieldHolds (record.field key) value

/-- The truth values of the entries of an object. -/
def entryValues (record : Record) : List (String × Json) → List Bool
  | [] => []
  | (key, value) :: entries => entryValue record key value :: entryValues record entries

/-- The truth values that `$and` and `$or` join: those of a list of expressions, or
of the entries of an object. -/
def joinedValues (record : Record) : Json → List Bool
  | .array items => itemValues record items
  | .object entries => entryValues record entries
  | _ => []

def itemValues (record : Record) : List Json → List Bool
  | [] => []
  | item :: items => eval record item :: itemValues record items

end

/-! ## Fields -/

variable {record : Record}

/-- The comparison that is found for an operator means what the operator means. -/
theorem holds_of_comparisonFor? {operator : String} {operand : Json} {comparison : Comparison}
    (found : comparisonFor? operator operand = some comparison) (actual : Json) :
    comparison.holds actual operand = operatorHolds actual operand operator := by
  obtain ⟨listed, lookup, rfl⟩ := Option.map_eq_some_iff.mp found
  obtain ⟨before, after, split, _⟩ := List.lookup_eq_some_iff.mp lookup
  have member : (operator, listed) ∈ operators := by
    rw [split]
    exact List.mem_append_right before List.mem_cons_self
  simp only [operators, List.mem_cons, List.not_mem_nil, or_false, Prod.mk.injEq] at member
  rcases member with ⟨rfl, rfl⟩ | ⟨rfl, rfl⟩ | ⟨rfl, rfl⟩ | ⟨rfl, rfl⟩ | ⟨rfl, rfl⟩ |
    ⟨rfl, rfl⟩ | ⟨rfl, rfl⟩ | ⟨rfl, rfl⟩ | ⟨rfl, rfl⟩ | ⟨rfl, rfl⟩ | ⟨rfl, rfl⟩ | ⟨rfl, rfl⟩ |
    ⟨rfl, rfl⟩ | ⟨rfl, rfl⟩ | ⟨rfl, rfl⟩
  -- Only the two equalities look at the operand.
  case inl => cases operand <;> rfl
  case inr.inl => cases operand <;> rfl
  all_goals rfl

private theorem holds_of_translateOperator {field operator : String} {operand : Json}
    {predicate : Predicate}
    (translated : translateOperator field operator operand = .ok predicate) :
    predicate.holds record = operatorHolds (record.field field) operand operator := by
  unfold translateOperator at translated
  split at translated
  case h_1 => cases translated
  case h_2 comparison found =>
    split at translated
    · cases translated
      exact holds_of_comparisonFor? found (record.field field)
    · cases translated

private theorem holds_of_translateOperators {field : String} {members : List (String × Json)}
    {predicates : List Predicate} (translated : translateOperators field members = .ok predicates) :
    predicates.all (Predicate.holds record) =
      members.all fun operator => operatorHolds (record.field field) operator.2 operator.1 := by
  induction members generalizing predicates with
  | nil =>
      cases translated
      rfl
  | cons member members inductionHypothesis =>
      rw [translateOperators] at translated
      obtain ⟨first, rest, firstTranslated, restTranslated, rfl⟩ :=
        Outcome.cons_eq_ok.mp translated
      rw [List.all_cons, List.all_cons, holds_of_translateOperator firstTranslated,
        inductionHypothesis restTranslated]

/-- Conditions that are joined hold when each of them does, however they are
written. -/
theorem holds_conjunction (predicates : List Predicate) :
    (conjunction predicates).holds record = predicates.all (Predicate.holds record) := by
  match predicates with
  | [] => rfl
  | [predicate] => simp [conjunction]
  | first :: second :: rest =>
      exact allHold_eq_all record (first :: second :: rest)

private theorem holds_of_translateField {field : String} {value : Json} {predicate : Predicate}
    (translated : translateField field value = .ok predicate) :
    predicate.holds record = fieldHolds (record.field field) value := by
  cases value with
  | object members =>
      obtain ⟨predicates, operatorsTranslated, rfl⟩ := Outcome.map_eq_ok.mp translated
      rw [holds_conjunction, holds_of_translateOperators operatorsTranslated]
      rfl
  | _ =>
      cases translated
      rfl

/-! ## Expressions -/

private theorem all_id_map_holds (predicates : List Predicate) :
    (predicates.map (Predicate.holds record)).all id = predicates.all (Predicate.holds record) := by
  rw [List.all_map]
  rfl

private theorem any_id_map_holds (predicates : List Predicate) :
    (predicates.map (Predicate.holds record)).any id = predicates.any (Predicate.holds record) := by
  rw [List.any_map]
  rfl

/-- The predicate of a member has the truth value of the entry, given the same of what
its value is translated to. -/
theorem holds_of_translateMember {key : String} {value : Json} {predicate : Predicate}
    (nested : ∀ {operand : Predicate},
      translateNested key value = .ok operand → operand.holds record = eval record value)
    (joined : ∀ {operands : List Predicate}, translateList key value = .ok operands →
      operands.map (Predicate.holds record) = joinedValues record value)
    (translated : translateMember key value = .ok predicate) :
    predicate.holds record = entryValue record key value := by
  cases of_translateMember translated with
  | all isAnd listTranslated =>
      rw [entryValue, if_pos isAnd, ← joined listTranslated, all_id_map_holds]
      exact allHold_eq_all record _
  | any isOr listTranslated =>
      subst isOr
      rw [entryValue, if_neg (by decide), if_pos rfl, ← joined listTranslated, any_id_map_holds]
      exact anyHolds_eq_any record _
  | negation isNot operandTranslated =>
      subst isNot
      rw [entryValue, if_neg (by decide), if_neg (by decide), if_pos rfl, Predicate.holds,
        nested operandTranslated]
  | field notAnd notOr notNot plain fieldTranslated =>
      rw [entryValue, if_neg notAnd, if_neg notOr, if_neg notNot]
      exact holds_of_translateField fieldTranslated

mutual

/-- Translated members have the truth values of the entries, one by one. -/
theorem holds_of_translateMembers :
    ∀ {entries : List (String × Json)} {predicates : List Predicate},
      translateMembers entries = .ok predicates →
        predicates.map (Predicate.holds record) = entryValues record entries
  | [], _, translated => by
      rw [translateMembers] at translated
      cases translated
      rw [List.map_nil, entryValues]
  | (key, value) :: entries, _, translated => by
      rw [translateMembers] at translated
      obtain ⟨first, rest, firstTranslated, restTranslated, rfl⟩ :=
        Outcome.cons_eq_ok.mp translated
      -- The key decides whether the value is read as an expression or as a list, so
      -- the member needs what holds of both readings.
      have firstHolds : first.holds record = entryValue record key value :=
        holds_of_translateMember (fun translated => holds_of_translateNested translated)
          (fun translated => holds_of_translateList translated) firstTranslated
      rw [List.map_cons, firstHolds, holds_of_translateMembers restTranslated, entryValues]

private theorem holds_of_translateList {operator : String} :
    ∀ {value : Json} {predicates : List Predicate},
      translateList operator value = .ok predicates →
        predicates.map (Predicate.holds record) = joinedValues record value
  | .array items, _, translated => by
      rw [translateList] at translated
      rw [joinedValues, holds_of_translateItems translated]
  | .object entries, _, translated => by
      rw [translateList] at translated
      rw [joinedValues, holds_of_translateMembers translated]
  | .null, _, translated | .bool _, _, translated | .number _, _, translated
  | .string _, _, translated => by simp [translateList] at translated

private theorem holds_of_translateItems {operator : String} :
    ∀ {items : List Json} {predicates : List Predicate},
      translateItems operator items = .ok predicates →
        predicates.map (Predicate.holds record) = itemValues record items
  | [], _, translated => by
      rw [translateItems] at translated
      cases translated
      rw [List.map_nil, itemValues]
  | item :: items, _, translated => by
      rw [translateItems] at translated
      obtain ⟨first, rest, firstTranslated, restTranslated, rfl⟩ :=
        Outcome.cons_eq_ok.mp translated
      rw [List.map_cons, holds_of_translateNested firstTranslated,
        holds_of_translateItems restTranslated, itemValues]

private theorem holds_of_translateNested {operator : String} :
    ∀ {value : Json} {predicate : Predicate},
      translateNested operator value = .ok predicate → predicate.holds record = eval record value
  | .object entries, _, translated => by
      rw [translateNested] at translated
      obtain ⟨predicates, membersTranslated, rfl⟩ := Outcome.map_eq_ok.mp translated
      rw [holds_conjunction, ← all_id_map_holds, holds_of_translateMembers membersTranslated, eval]
  | .null, _, translated | .bool _, _, translated | .number _, _, translated
  | .string _, _, translated | .array _, _, translated => by
      simp [translateNested] at translated

end

/-- The predicate of an expression holds of the same records as the expression. -/
theorem holds_translate {expression : Json} {predicate : Predicate}
    (translated : translate expression = .ok predicate) (record : Record) :
    predicate.holds record = eval record expression := by
  cases expression with
  | null =>
      cases translated
      simp [Predicate.holds, eval]
  | object entries =>
      obtain ⟨predicates, membersTranslated, rfl⟩ := Outcome.map_eq_ok.mp translated
      rw [holds_conjunction, ← all_id_map_holds, holds_of_translateMembers membersTranslated, eval]
  | _ => cases translated

/-- An empty `$and` is met and an empty `$or` is not, and `$ne` with null asks for a
value. -/
theorem holds_translate_joined :
    let expression : Json := .object
      [("$and", .array []), ("$not", .object [("$or", .object [])]),
        ("title", .object [("$ne", .null), ("$like", .string "a%")])]
    let predicate : Predicate := .all [.all [], .negation (.any []),
      .all [.compare "title" .isNot .null, .compare "title" .like (.string "a%")]]
    let record : Record := [("title", .string "axiom")]
    translate expression = .ok predicate ∧ predicate.holds record = eval record expression ∧
      predicate.holds record = true := by
  intro expression predicate record
  have translated : translate expression = .ok predicate := by cbv
  exact ⟨translated, holds_translate translated record, by decide⟩

end QueryCompiler.Filter
