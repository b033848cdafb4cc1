import QueryCompiler.Proofs.Filter.Operand
import QueryCompiler.Proofs.Filter.Translate

/-!
# The filter dialect

`IsExpression` is the grammar of filter expressions and `Offence` tells the first place in
document order where an expression breaks it: at every level the entries, items and
operators before that place are well-formed.  An expression is translated exactly if it
is well-formed, and otherwise the error is the one of its first offence.
-/

namespace QueryCompiler.Filter

open Json

/-! ## Grammar -/

/-- The keys that join conditions. -/
def Joins (key : String) : Prop :=
  key = "$and" ∨ key = "$or"

/-- What may be written under a field. -/
inductive IsFieldCondition : Json → Prop
  | null : IsFieldCondition .null
  | bool (value : Bool) : IsFieldCondition (.bool value)
  | number (value : Json.Number) : IsFieldCondition (.number value)
  | string (value : String) : IsFieldCondition (.string value)
  | array (items : List Json) : IsFieldCondition (.array items)
  | operators {members : List (String × Json)}
      (each : ∀ member ∈ members, TakesOperand member.1 member.2) :
      IsFieldCondition (.object members)

mutual

/-- An object of well-formed entries. -/
inductive IsExpression : Json → Prop
  | object {members : List (String × Json)} (each : ∀ member ∈ members, IsEntry member.1 member.2) :
      IsExpression (.object members)

/-- A well-formed entry. -/
inductive IsEntry : String → Json → Prop
  | joined {key : String} {value : Json} (joins : Joins key) (operands : IsJoined value) :
      IsEntry key value
  | negation {value : Json} (nested : IsExpression value) : IsEntry "$not" value
  | field {key : String} {value : Json} (names : NamesField key)
      (condition : IsFieldCondition value) : IsEntry key value

/-- What may be joined: a list of expressions, or the entries of an object. -/
inductive IsJoined : Json → Prop
  | items {items : List Json} (each : ∀ item ∈ items, IsExpression item) : IsJoined (.array items)
  | entries {members : List (String × Json)}
      (each : ∀ member ∈ members, IsEntry member.1 member.2) : IsJoined (.object members)

end

/-! ## Offences -/

/-- The first operator of a field that is unknown or does not take its operand. -/
inductive OperatorsOffence : List (String × Json) → FilterError → Prop
  | unknown {operator : String} {operand : Json} {members : List (String × Json)}
      (unknown : operandShapes.lookup operator = none) :
      OperatorsOffence ((operator, operand) :: members) (.unknownOperator operator)
  | operand {operator : String} {operand : Json} {members : List (String × Json)}
      {shape : OperandShape} (known : operandShapes.lookup operator = some shape)
      (refused : ¬ shape.Admits operand) :
      OperatorsOffence ((operator, operand) :: members) (unexpectedOperand operator operand)
  | later {operator : String} {operand : Json} {members : List (String × Json)}
      {error : FilterError} (fine : TakesOperand operator operand)
      (offence : OperatorsOffence members error) :
      OperatorsOffence ((operator, operand) :: members) error

mutual

/-- The first offence among the entries of an object. -/
inductive EntriesOffence : List (String × Json) → FilterError → Prop
  | here {key : String} {value : Json} {members : List (String × Json)} {error : FilterError}
      (offence : EntryOffence key value error) : EntriesOffence ((key, value) :: members) error
  | later {key : String} {value : Json} {members : List (String × Json)} {error : FilterError}
      (fine : IsEntry key value) (offence : EntriesOffence members error) :
      EntriesOffence ((key, value) :: members) error

/-- The first offence of an entry. -/
inductive EntryOffence : String → Json → FilterError → Prop
  | joined {key : String} {value : Json} {error : FilterError} (joins : Joins key)
      (offence : JoinedOffence key value error) : EntryOffence key value error
  | negation {value : Json} {error : FilterError} (offence : NestedOffence "$not" value error) :
      EntryOffence "$not" value error
  | unknown {key : String} {value : Json} (notJoins : ¬ Joins key) (notNot : key ≠ "$not")
      (notField : ¬ NamesField key) : EntryOffence key value (.unknownOperator key)
  | field {key : String} {members : List (String × Json)} {error : FilterError}
      (names : NamesField key) (offence : OperatorsOffence members error) :
      EntryOffence key (.object members) error

/-- The first offence of what a key joins. -/
inductive JoinedOffence : String → Json → FilterError → Prop
  | shape {key : String} {value : Json} (notArray : ∀ items, value ≠ .array items)
      (notObject : ∀ members, value ≠ .object members) :
      JoinedOffence key value (operandNotAList key value)
  | items {key : String} {items : List Json} {error : FilterError}
      (offence : ItemsOffence key items error) : JoinedOffence key (.array items) error
  | entries {key : String} {members : List (String × Json)} {error : FilterError}
      (offence : EntriesOffence members error) : JoinedOffence key (.object members) error

/-- The first offence in a list of expressions under a key. -/
inductive ItemsOffence : String → List Json → FilterError → Prop
  | here {key : String} {item : Json} {items : List Json} {error : FilterError}
      (offence : NestedOffence key item error) : ItemsOffence key (item :: items) error
  | later {key : String} {item : Json} {items : List Json} {error : FilterError}
      (fine : IsExpression item) (offence : ItemsOffence key items error) :
      ItemsOffence key (item :: items) error

/-- The first offence of an expression under a key. -/
inductive NestedOffence : String → Json → FilterError → Prop
  | shape {key : String} {value : Json} (notObject : ∀ members, value ≠ .object members) :
      NestedOffence key value (operandNotAnObject key value)
  | entries {key : String} {members : List (String × Json)} {error : FilterError}
      (offence : EntriesOffence members error) : NestedOffence key (.object members) error

end

/-- The first offence of an expression. -/
inductive Offence : Json → FilterError → Prop
  | malformed {value : Json} (notNull : value ≠ .null)
      (notObject : ∀ members, value ≠ .object members) : Offence value (notAnObject value)
  | entries {members : List (String × Json)} {error : FilterError}
      (offence : EntriesOffence members error) : Offence (.object members) error

/-! ## Keys -/

private theorem Joins.not_namesField {key : String} (joins : Joins key) : ¬ NamesField key := by
  intro names
  rcases joins with rfl | rfl
  · exact absurd (isOperatorLike_eq_false_iff.mpr names) (by decide)
  · exact absurd (isOperatorLike_eq_false_iff.mpr names) (by decide)

theorem not_joins_not : ¬ Joins "$not" := by
  unfold Joins
  decide

private theorem not_namesField_not : ¬ NamesField "$not" := by
  intro names
  exact absurd (isOperatorLike_eq_false_iff.mpr names) (by decide)

private theorem translateMember_of_field {key : String} {value : Json} (names : NamesField key) :
    translateMember key value = translateField key value := by
  have notJoins : ¬ Joins key := fun joins => joins.not_namesField names
  have notNot : key ≠ "$not" := by
    rintro rfl
    exact not_namesField_not names
  obtain ⟨notAnd, notOr⟩ := not_or.mp notJoins
  rw [translateMember, if_neg notAnd, if_neg notOr, if_neg notNot,
    isOperatorLike_eq_false_iff.mpr names, if_neg Bool.false_ne_true]

private theorem translateMember_of_unknown {key : String} {value : Json} (notJoins : ¬ Joins key)
    (notNot : key ≠ "$not") (notField : ¬ NamesField key) :
    translateMember key value = .error (.unknownOperator key) := by
  obtain ⟨notAnd, notOr⟩ := not_or.mp notJoins
  have operatorLike : isOperatorLike key = true := by
    rw [← Bool.not_eq_false, isOperatorLike_eq_false_iff]
    exact notField
  rw [translateMember, if_neg notAnd, if_neg notOr, if_neg notNot, if_pos operatorLike]

private theorem translateMember_of_not {value : Json} :
    translateMember "$not" value = (translateNested "$not" value).map .negation := by
  rw [translateMember, if_neg (by decide), if_neg (by decide), if_pos rfl]

/-- A key that joins gives a conjunction or a disjunction of what it joins. -/
theorem translateMember_of_joins {key : String} (value : Json) (joins : Joins key) :
    ∃ join, translateMember key value = (translateList key value).map join := by
  rcases joins with rfl | rfl
  · exact ⟨.all, by rw [translateMember, if_pos rfl]⟩
  · exact ⟨.any, by rw [translateMember, if_neg (by decide), if_pos rfl]⟩

private theorem isEntry_iff_of_joins {key : String} {value : Json} (joins : Joins key) :
    IsEntry key value ↔ IsJoined value := by
  constructor
  · intro entry
    cases entry with
    | joined _ operands => exact operands
    | negation => exact absurd joins not_joins_not
    | field names => exact absurd names joins.not_namesField
  · exact .joined joins

theorem isEntry_not_iff {value : Json} : IsEntry "$not" value ↔ IsExpression value := by
  constructor
  · intro entry
    cases entry with
    | joined joins => exact absurd joins not_joins_not
    | negation nested => exact nested
    | field names => exact absurd names not_namesField_not
  · exact .negation

private theorem isEntry_iff_of_field {key : String} {value : Json} (names : NamesField key) :
    IsEntry key value ↔ IsFieldCondition value := by
  constructor
  · intro entry
    cases entry with
    | joined joins => exact absurd names joins.not_namesField
    | negation => exact absurd names not_namesField_not
    | field _ condition => exact condition
  · exact .field names

private theorem not_isEntry_of_unknown {key : String} {value : Json} (notJoins : ¬ Joins key)
    (notNot : key ≠ "$not") (notField : ¬ NamesField key) : ¬ IsEntry key value := by
  intro entry
  cases entry with
  | joined joins => exact notJoins joins
  | negation => exact notNot rfl
  | field names => exact notField names

private theorem entryOffence_iff_of_joins {key : String} {value : Json} {error : FilterError}
    (joins : Joins key) : EntryOffence key value error ↔ JoinedOffence key value error := by
  constructor
  · intro offence
    cases offence with
    | joined _ offence => exact offence
    | negation => exact absurd joins not_joins_not
    | unknown notJoins => exact absurd joins notJoins
    | field names => exact absurd names joins.not_namesField
  · exact .joined joins

theorem entryOffence_not_iff {value : Json} {error : FilterError} :
    EntryOffence "$not" value error ↔ NestedOffence "$not" value error := by
  constructor
  · intro offence
    cases offence with
    | joined joins => exact absurd joins not_joins_not
    | negation offence => exact offence
    | unknown _ notNot => exact absurd rfl notNot
    | field names => exact absurd names not_namesField_not
  · exact .negation

private theorem entryOffence_iff_of_field {key : String} {value : Json} {error : FilterError}
    (names : NamesField key) :
    EntryOffence key value error ↔
      ∃ members, value = .object members ∧ OperatorsOffence members error := by
  constructor
  · intro offence
    cases offence with
    | joined joins => exact absurd names joins.not_namesField
    | negation => exact absurd names not_namesField_not
    | unknown _ _ notField => exact absurd names notField
    | field _ offence => exact ⟨_, rfl, offence⟩
  · rintro ⟨members, rfl, offence⟩
    exact .field names offence

private theorem entryOffence_iff_of_unknown {key : String} {value : Json} {error : FilterError}
    (notJoins : ¬ Joins key) (notNot : key ≠ "$not") (notField : ¬ NamesField key) :
    EntryOffence key value error ↔ error = .unknownOperator key := by
  constructor
  · intro offence
    cases offence with
    | joined joins => exact absurd joins notJoins
    | negation => exact absurd rfl notNot
    | unknown => rfl
    | field names => exact absurd names notField
  · rintro rfl
    exact .unknown notJoins notNot notField

/-! ## Fields -/

theorem translateOperator_accepts {field operator : String} {operand : Json} :
    (∃ predicate, translateOperator field operator operand = .ok predicate) ↔
      TakesOperand operator operand := by
  constructor
  · rintro ⟨predicate, translated⟩
    cases known : operandShapes.lookup operator with
    | none =>
        rw [translateOperator_of_unknown field operand known] at translated
        cases translated
    | some shape =>
        by_cases admitted : shape.Admits operand
        · exact ⟨shape, known, admitted⟩
        · rw [translateOperator_of_refused field known admitted] at translated
          cases translated
  · intro taken
    obtain ⟨comparison, _, _, translated⟩ := translateOperator_of_admits field taken
    exact ⟨_, translated⟩

private theorem translateOperators_accepts {field : String} {members : List (String × Json)} :
    (∃ predicates, translateOperators field members = .ok predicates) ↔
      ∀ member ∈ members, TakesOperand member.1 member.2 := by
  induction members with
  | nil => simp [translateOperators]
  | cons member members inductionHypothesis =>
      rw [translateOperators, Outcome.exists_cons_eq_ok, translateOperator_accepts,
        inductionHypothesis, List.forall_mem_cons]

private theorem translateOperators_rejects {field : String} {members : List (String × Json)}
    {error : FilterError} :
    translateOperators field members = .error error ↔ OperatorsOffence members error := by
  induction members with
  | nil =>
      constructor
      · intro rejected
        cases rejected
      · intro offence
        cases offence
  | cons member members inductionHypothesis =>
      obtain ⟨operator, operand⟩ := member
      rw [translateOperators, Outcome.cons_eq_error, translateOperator_accepts,
        inductionHypothesis]
      constructor
      · rintro (rejected | ⟨fine, offence⟩)
        · cases known : operandShapes.lookup operator with
          | none =>
              rw [translateOperator_of_unknown field operand known] at rejected
              cases rejected
              exact .unknown known
          | some shape =>
              by_cases admitted : shape.Admits operand
              · obtain ⟨_, _, _, translated⟩ :=
                  translateOperator_of_admits field ⟨shape, known, admitted⟩
                rw [translated] at rejected
                cases rejected
              · rw [translateOperator_of_refused field known admitted] at rejected
                cases rejected
                exact .operand known admitted
        · exact .later fine offence
      · intro offence
        cases offence with
        | unknown unknown => exact .inl (translateOperator_of_unknown field operand unknown)
        | operand known refused => exact .inl (translateOperator_of_refused field known refused)
        | later fine offence => exact .inr ⟨fine, offence⟩

private theorem translateField_accepts {field : String} {value : Json} :
    (∃ predicate, translateField field value = .ok predicate) ↔ IsFieldCondition value := by
  cases value with
  | object members =>
      rw [translateField, Outcome.exists_map_eq_ok, translateOperators_accepts]
      constructor
      · exact .operators
      · intro condition
        cases condition with
        | operators each => exact each
  | null => exact ⟨fun _ => .null, fun _ => ⟨_, rfl⟩⟩
  | bool value => exact ⟨fun _ => .bool value, fun _ => ⟨_, rfl⟩⟩
  | number value => exact ⟨fun _ => .number value, fun _ => ⟨_, rfl⟩⟩
  | string value => exact ⟨fun _ => .string value, fun _ => ⟨_, rfl⟩⟩
  | array items => exact ⟨fun _ => .array items, fun _ => ⟨_, rfl⟩⟩

private theorem translateField_rejects {field : String} {value : Json} {error : FilterError} :
    translateField field value = .error error ↔
      ∃ members, value = .object members ∧ OperatorsOffence members error := by
  cases value with
  | object members => simp [translateField, Outcome.map_eq_error, translateOperators_rejects]
  | _ => simp [translateField]

/-! ## Well-formed expressions are translated -/

/-- An entry is translated if it is well-formed, given the same of what it joins or
negates. -/
theorem translateMember_accepts {key : String} {value : Json}
    (joined : (∃ operands, translateList key value = .ok operands) ↔ IsJoined value)
    (nested : (∃ operand, translateNested key value = .ok operand) ↔ IsExpression value) :
    (∃ predicate, translateMember key value = .ok predicate) ↔ IsEntry key value := by
  by_cases joins : Joins key
  · obtain ⟨join, translated⟩ := translateMember_of_joins value joins
    rw [translated, Outcome.exists_map_eq_ok, joined, isEntry_iff_of_joins joins]
  by_cases isNot : key = "$not"
  · subst isNot
    rw [translateMember_of_not, Outcome.exists_map_eq_ok, nested, isEntry_not_iff]
  by_cases names : NamesField key
  · rw [translateMember_of_field names, translateField_accepts, isEntry_iff_of_field names]
  · rw [translateMember_of_unknown joins isNot names]
    simp [not_isEntry_of_unknown joins isNot names]

mutual

private theorem translateMembers_accepts :
    ∀ {members : List (String × Json)},
      (∃ predicates, translateMembers members = .ok predicates) ↔
        ∀ member ∈ members, IsEntry member.1 member.2
  | [] => by simp [translateMembers]
  | (key, value) :: members => by
      have first := translateMember_accepts (translateList_accepts key value)
        (translateNested_accepts key value)
      rw [translateMembers, Outcome.exists_cons_eq_ok, first, translateMembers_accepts,
        List.forall_mem_cons]

private theorem translateList_accepts (key : String) :
    ∀ value : Json, (∃ operands, translateList key value = .ok operands) ↔ IsJoined value
  | .array items => by
      rw [translateList, translateItems_accepts key items]
      constructor
      · exact .items
      · intro operands
        cases operands with
        | items each => exact each
  | .object members => by
      rw [translateList, translateMembers_accepts]
      constructor
      · exact .entries
      · intro operands
        cases operands with
        | entries each => exact each
  | .null | .bool _ | .number _ | .string _ => by
      constructor
      · rintro ⟨operands, translated⟩
        simp [translateList] at translated
      · intro operands
        cases operands

private theorem translateItems_accepts (key : String) :
    ∀ items : List Json,
      (∃ predicates, translateItems key items = .ok predicates) ↔
        ∀ item ∈ items, IsExpression item
  | [] => by simp [translateItems]
  | item :: items => by
      rw [translateItems, Outcome.exists_cons_eq_ok, translateNested_accepts key item,
        translateItems_accepts key items, List.forall_mem_cons]

private theorem translateNested_accepts (key : String) :
    ∀ value : Json, (∃ operand, translateNested key value = .ok operand) ↔ IsExpression value
  | .object members => by
      rw [translateNested, Outcome.exists_map_eq_ok, translateMembers_accepts]
      constructor
      · exact .object
      · intro expression
        cases expression with
        | object each => exact each
  | .null | .bool _ | .number _ | .string _ | .array _ => by
      constructor
      · rintro ⟨operand, translated⟩
        simp [translateNested] at translated
      · intro expression
        cases expression

end

/-! ## The first offence is reported -/

private theorem translateMember_rejects {key : String} {value : Json} {error : FilterError}
    (joined : translateList key value = .error error ↔ JoinedOffence key value error)
    (nested : translateNested key value = .error error ↔ NestedOffence key value error) :
    translateMember key value = .error error ↔ EntryOffence key value error := by
  by_cases joins : Joins key
  · obtain ⟨join, translated⟩ := translateMember_of_joins value joins
    rw [translated, Outcome.map_eq_error, joined, entryOffence_iff_of_joins joins]
  by_cases isNot : key = "$not"
  · subst isNot
    rw [translateMember_of_not, Outcome.map_eq_error, nested, entryOffence_not_iff]
  by_cases names : NamesField key
  · rw [translateMember_of_field names, translateField_rejects, entryOffence_iff_of_field names]
  · rw [translateMember_of_unknown joins isNot names,
      entryOffence_iff_of_unknown joins isNot names, Except.error.injEq, eq_comm]

mutual

private theorem translateMembers_rejects {error : FilterError} :
    ∀ {members : List (String × Json)},
      translateMembers members = .error error ↔ EntriesOffence members error
  | [] => by
      constructor
      · intro rejected
        simp [translateMembers] at rejected
      · intro offence
        cases offence
  | (key, value) :: members => by
      have accepts := translateMember_accepts (translateList_accepts key value)
        (translateNested_accepts key value)
      have rejects : translateMember key value = .error error ↔ EntryOffence key value error :=
        translateMember_rejects (translateList_rejects key value)
          (translateNested_rejects key value)
      rw [translateMembers, Outcome.cons_eq_error, accepts, rejects, translateMembers_rejects]
      constructor
      · rintro (offence | ⟨fine, offence⟩)
        · exact .here offence
        · exact .later fine offence
      · intro offence
        cases offence with
        | here offence => exact .inl offence
        | later fine offence => exact .inr ⟨fine, offence⟩

private theorem translateList_rejects {error : FilterError} (key : String) :
    ∀ value : Json, translateList key value = .error error ↔ JoinedOffence key value error
  | .array items => by
      rw [translateList, translateItems_rejects key items]
      constructor
      · exact .items
      · intro offence
        cases offence with
        | shape notArray => exact absurd rfl (notArray items)
        | items offence => exact offence
  | .object members => by
      rw [translateList, translateMembers_rejects]
      constructor
      · exact .entries
      · intro offence
        cases offence with
        | shape _ notObject => exact absurd rfl (notObject members)
        | entries offence => exact offence
  | .null | .bool _ | .number _ | .string _ => by
      constructor
      · intro rejected
        simp only [translateList, Except.error.injEq] at rejected
        subst rejected
        exact .shape nofun nofun
      · intro offence
        cases offence
        simp [translateList]

private theorem translateItems_rejects {error : FilterError} (key : String) :
    ∀ items : List Json, translateItems key items = .error error ↔ ItemsOffence key items error
  | [] => by
      constructor
      · intro rejected
        simp [translateItems] at rejected
      · intro offence
        cases offence
  | item :: items => by
      rw [translateItems, Outcome.cons_eq_error, translateNested_rejects key item,
        translateNested_accepts key item, translateItems_rejects key items]
      constructor
      · rintro (offence | ⟨fine, offence⟩)
        · exact .here offence
        · exact .later fine offence
      · intro offence
        cases offence with
        | here offence => exact .inl offence
        | later fine offence => exact .inr ⟨fine, offence⟩

private theorem translateNested_rejects {error : FilterError} (key : String) :
    ∀ value : Json, translateNested key value = .error error ↔ NestedOffence key value error
  | .object members => by
      rw [translateNested, Outcome.map_eq_error, translateMembers_rejects]
      constructor
      · exact .entries
      · intro offence
        cases offence with
        | shape notObject => exact absurd rfl (notObject members)
        | entries offence => exact offence
  | .null | .bool _ | .number _ | .string _ | .array _ => by
      constructor
      · intro rejected
        simp only [translateNested, Except.error.injEq] at rejected
        subst rejected
        exact .shape nofun
      · intro offence
        cases offence
        simp [translateNested]

end

/-! ## Kinds of errors -/

/-- Whether an error says that there is no expression at all. -/
def isMalformed : FilterError → Bool
  | .malformed _ => true
  | _ => false

private theorem OperatorsOffence.not_malformed {members : List (String × Json)}
    {error : FilterError}
    (offence : OperatorsOffence members error) : isMalformed error = false := by
  induction offence with
  | unknown => rfl
  | operand => rfl
  | later _ _ inductionHypothesis => exact inductionHypothesis

mutual

private theorem EntriesOffence.not_malformed {error : FilterError} :
    ∀ {members : List (String × Json)}, EntriesOffence members error → isMalformed error = false
  | _, .here offence => offence.not_malformed
  | _, .later _ offence => offence.not_malformed

private theorem EntryOffence.not_malformed {error : FilterError} :
    ∀ {key : String} {value : Json}, EntryOffence key value error → isMalformed error = false
  | _, _, .joined _ offence => offence.not_malformed
  | _, _, .negation offence => offence.not_malformed
  | _, _, .unknown _ _ _ => rfl
  | _, _, .field _ offence => offence.not_malformed

private theorem JoinedOffence.not_malformed {error : FilterError} :
    ∀ {key : String} {value : Json}, JoinedOffence key value error → isMalformed error = false
  | _, _, .shape _ _ => rfl
  | _, _, .items offence => offence.not_malformed
  | _, _, .entries offence => offence.not_malformed

private theorem ItemsOffence.not_malformed {error : FilterError} :
    ∀ {key : String} {items : List Json}, ItemsOffence key items error → isMalformed error = false
  | _, _, .here offence => offence.not_malformed
  | _, _, .later _ offence => offence.not_malformed

private theorem NestedOffence.not_malformed {error : FilterError} :
    ∀ {key : String} {value : Json}, NestedOffence key value error → isMalformed error = false
  | _, _, .shape _ => rfl
  | _, _, .entries offence => offence.not_malformed

end

/-! ## The dialect -/

private theorem translate_accepts {expression : Json} :
    (∃ predicate, translate expression = .ok predicate) ↔
      expression = .null ∨ IsExpression expression := by
  cases expression with
  | null => exact ⟨fun _ => .inl rfl, fun _ => ⟨.always, rfl⟩⟩
  | object members =>
      have nested := translateNested_accepts "$not" (.object members)
      rw [translateNested] at nested
      simpa [translate] using nested
  | _ =>
      constructor
      · rintro ⟨predicate, translated⟩
        cases translated
      · rintro (same | expression)
        · cases same
        · cases expression

private theorem translate_rejects {expression : Json} {error : FilterError} :
    translate expression = .error error ↔ Offence expression error := by
  cases expression with
  | null =>
      constructor
      · intro rejected
        cases rejected
      · intro offence
        cases offence with
        | malformed notNull => exact absurd rfl notNull
  | object members =>
      rw [translate, Outcome.map_eq_error, translateMembers_rejects]
      constructor
      · exact .entries
      · intro offence
        cases offence with
        | malformed _ notObject => exact absurd rfl (notObject members)
        | entries offence => exact offence
  | _ =>
      constructor
      · intro rejected
        cases rejected
        exact .malformed nofun nofun
      · intro offence
        cases offence
        rfl

theorem exists_malformed_offence_iff {expression : Json} :
    (∃ reason, Offence expression (.malformed reason)) ↔
      expression ≠ .null ∧ ∀ members, expression ≠ .object members := by
  constructor
  · rintro ⟨reason, offence⟩
    cases offence with
    | malformed notNull notObject => exact ⟨notNull, notObject⟩
    | entries offence => exact absurd offence.not_malformed (by simp [isMalformed])
  · rintro ⟨notNull, notObject⟩
    exact ⟨_, .malformed notNull notObject⟩

/-- An expression is translated exactly if it is null or well-formed.  Otherwise the error
is that of its first offence, and it is malformed exactly if it is neither null nor an
object. -/
theorem translate_decides_dialect (expression : Json) :
    ((∃ predicate, translate expression = .ok predicate) ↔
        expression = .null ∨ IsExpression expression) ∧
      (∀ error, translate expression = .error error ↔ Offence expression error) ∧
      ((∃ reason, translate expression = .error (.malformed reason)) ↔
        expression ≠ .null ∧ ∀ members, expression ≠ .object members) := by
  refine ⟨translate_accepts, fun error => translate_rejects, ?_⟩
  rw [← exists_malformed_offence_iff]
  exact exists_congr fun reason => translate_rejects

end QueryCompiler.Filter
