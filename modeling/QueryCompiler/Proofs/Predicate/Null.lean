import QueryCompiler.Proofs.Predicate.FieldPath

/-!
# Comparisons with null

Nothing is equal to null, nor before or after it.  A comparison that asks for equality, for an
order or for a pattern is therefore never met when null takes part in it.  The comparisons that
turn such an answer around look for null in the field only: they are met by any other value of
the field when it is compared with null.
-/

namespace QueryCompiler

/-- Null takes part in a comparison: the field reads null, as it is null or missing, the value
is null, or null is among the items that the field must not be equal to. -/
inductive MeetsNull (record : Record) (field : String) : Comparison → Json → Prop
  | field {comparison : Comparison} {value : Json}
      (reads : (Json.object record).Reads (fieldPath field) .null) :
      MeetsNull record field comparison value
  | value {comparison : Comparison} : MeetsNull record field comparison .null
  | item {items : List Json} (member : .null ∈ items) :
      MeetsNull record field .notIn (.array items)

/-- The comparisons that turn another one around. -/
def Comparison.negative : List Comparison := [.ne, .notIn, .notLike, .notBetween]

/-- The ways in which a comparison is met although null takes part in it. -/
inductive MetBesideNull : Comparison → (actual value : Json) → Prop
  | ne {actual : Json} (present : actual ≠ .null) : MetBesideNull .ne actual .null
  | notIn {actual : Json} (present : actual ≠ .null) : MetBesideNull .notIn actual .null
  | notAmong {actual : Json} {items : List Json} (present : actual ≠ .null)
      (others : ∀ item ∈ items, Comparison.eq.holds actual item = false) :
      MetBesideNull .notIn actual (.array items)
  | notLike (text : String) : MetBesideNull .notLike (.string text) .null
  | notBetween {actual : Json} (present : actual ≠ .null) : MetBesideNull .notBetween actual .null

/-! ## Null among values -/

namespace Json

theorem isNull_eq_false_iff {value : Json} : value.isNull = false ↔ value ≠ .null := by
  cases value <;> simp [isNull]

@[simp]
theorem order?_null_left (value : Json) : order? .null value = none := by
  cases value <;> rfl

@[simp]
theorem order?_null_right (value : Json) : value.order? .null = none := by
  cases value <;> rfl

@[simp]
theorem looselyEqual_null_left (value : Json) : looselyEqual .null value = false := rfl

@[simp]
theorem looselyEqual_null_right (value : Json) : value.looselyEqual .null = false := by
  simp [looselyEqual, isNull]

@[simp]
theorem isAmong_null_left (value : Json) : isAmong .null value = false := by
  cases value with
  | array items => simp [isAmong]
  | _ => rfl

@[simp]
theorem isBetween_null_left (value : Json) : isBetween .null value = false := by
  unfold isBetween
  split
  · simp [atLeast]
  · rfl

/-- Null among the items is passed over, as nothing is equal to it. -/
theorem isAmong_array_eq_false_iff {actual : Json} {items : List Json} :
    actual.isAmong (.array items) = false ↔
      ∀ item ∈ items, Comparison.eq.holds actual item = false := by
  simp [isAmong, Comparison.holds]

@[simp]
theorem isLike_null_left (change : List Char → List Char) (value : Json) :
    isLike change .null value = false := by
  cases value <;> rfl

@[simp]
theorem isLike_null_right (change : List Char → List Char) (value : Json) :
    value.isLike change .null = false := by
  cases value <;> rfl

end Json

open Json

variable {comparison : Comparison}

/-! ## Ways to be met -/

namespace MetBesideNull

variable {actual value : Json}

private theorem present (met : MetBesideNull comparison actual value) : actual ≠ .null := by
  cases met with
  | ne present | notIn present | notAmong present | notBetween present => exact present
  | notLike text => exact Json.noConfusion

private theorem negative (met : MetBesideNull comparison actual value) :
    comparison ∈ Comparison.negative := by
  cases met <;> simp [Comparison.negative]

end MetBesideNull

namespace Comparison

/-- A field that reads null meets no relation to any value. -/
theorem holds_null_left (relational : comparison ≠ .is ∧ comparison ≠ .isNot) (value : Json) :
    comparison.holds .null value = false := by
  cases comparison with
  | is => exact absurd rfl relational.1
  | isNot => exact absurd rfl relational.2
  | _ => simp [holds, isNull, isString, atLeast, atMost]

private theorem holds_null_right_of_not_mem_negative
    (relational : comparison ≠ .is ∧ comparison ≠ .isNot)
    (positive : comparison ∉ negative) (actual : Json) :
    comparison.holds actual .null = false := by
  cases comparison with
  | is => exact absurd rfl relational.1
  | isNot => exact absurd rfl relational.2
  | ne | notIn | notLike | notBetween => exact absurd (by decide) positive
  | _ => simp [holds, atLeast, atMost, isAmong, isBetween]

private theorem ne_null_of_holds (relational : comparison ≠ .is ∧ comparison ≠ .isNot)
    {actual value : Json} (met : comparison.holds actual value = true) : actual ≠ .null := by
  rintro rfl
  rw [holds_null_left relational] at met
  cases met

private theorem holds_of_metBesideNull {actual value : Json}
    (met : MetBesideNull comparison actual value) : comparison.holds actual value = true := by
  have present : actual.isNull = false := isNull_eq_false_iff.mpr met.present
  cases met with
  | ne => simp [holds, present]
  | notIn => simp [holds, present, isAmong]
  | notAmong _ others => simp [holds, present, isAmong_array_eq_false_iff.mpr others]
  | notLike text => simp [holds, isString]
  | notBetween => simp [holds, present, isBetween]

theorem holds_null_right_iff (relational : comparison ≠ .is ∧ comparison ≠ .isNot)
    (actual : Json) :
    comparison.holds actual .null = true ↔ MetBesideNull comparison actual .null := by
  refine ⟨fun met => ?_, holds_of_metBesideNull⟩
  have present := ne_null_of_holds relational met
  cases comparison with
  | ne => exact .ne present
  | notIn => exact .notIn present
  | notBetween => exact .notBetween present
  | notLike =>
      -- Nothing but a text is tested against a pattern, so the field has to be one.
      cases actual with
      | string text => exact .notLike text
      | _ => cases met
  | _ =>
      rw [holds_null_right_of_not_mem_negative relational (by decide)] at met
      cases met

theorem notIn_holds_array_iff (actual : Json) (items : List Json) :
    Comparison.notIn.holds actual (.array items) = true ↔
      MetBesideNull .notIn actual (.array items) := by
  refine ⟨fun met => ?_, holds_of_metBesideNull⟩
  have present := ne_null_of_holds (by decide) met
  rw [holds, Bool.and_eq_true, Bool.not_eq_true', Bool.not_eq_true'] at met
  exact .notAmong present (isAmong_array_eq_false_iff.mp met.2)

end Comparison

/-! ## Records -/

section

variable {record : Record} {field : String} {value : Json}

private theorem compare_of_reads_null (relational : comparison ≠ .is ∧ comparison ≠ .isNot)
    (reads : (Json.object record).Reads (fieldPath field) .null) :
    (Predicate.compare field comparison value).holds record = false := by
  rw [Predicate.holds, Record.field_eq_iff.mpr reads]
  exact Comparison.holds_null_left relational value

private theorem compare_iff_metBesideNull (relational : comparison ≠ .is ∧ comparison ≠ .isNot)
    (meets : MeetsNull record field comparison value) :
    (Predicate.compare field comparison value).holds record = true ↔
      MetBesideNull comparison (record.field field) value := by
  cases meets with
  | field reads =>
      rw [compare_of_reads_null relational reads]
      constructor
      · exact fun met => absurd met Bool.false_ne_true
      · exact fun met => absurd (Record.field_eq_iff.mpr reads) met.present
  | value =>
      rw [Predicate.holds]
      exact Comparison.holds_null_right_iff relational _
  | item =>
      rw [Predicate.holds]
      exact Comparison.notIn_holds_array_iff _ _

end

/-- Among the comparisons other than identity, one that null takes part in is met in the ways
of `MetBesideNull` only.  A field that is null or missing meets none of them, and neither is
any of them met that turns no other one around; those that do can all be met. -/
theorem compare_beside_null (relational : comparison ≠ .is ∧ comparison ≠ .isNot) :
    (∀ record field value, MeetsNull record field comparison value →
        ((Predicate.compare field comparison value).holds record = true ↔
          MetBesideNull comparison (record.field field) value)) ∧
      (∀ record field value, (Json.object record).Reads (fieldPath field) .null →
        (Predicate.compare field comparison value).holds record = false) ∧
      ((∀ record field value, MeetsNull record field comparison value →
          (Predicate.compare field comparison value).holds record = false) ↔
        comparison ∉ Comparison.negative) := by
  refine ⟨fun record field value => compare_iff_metBesideNull relational,
    fun record field value => compare_of_reads_null relational, ?_⟩
  constructor
  · intro never turned
    -- The empty text meets each of these when it is compared with null.
    have unmet := never [("a", .string "")] "a" .null .value
    cases comparison with
    | ne | notIn | notLike | notBetween => exact absurd unmet (by decide)
    | _ => exact absurd turned (by decide)
  · intro positive record field value meets
    by_contra met
    rw [Bool.not_eq_false, compare_iff_metBesideNull relational meets] at met
    exact positive met.negative

/-- A nested field against a list with null, an object without the member, and an order. -/
theorem compare_beside_null_of_rank :
    let one : Json := ofUInt64 1
    let two : Json := ofUInt64 2
    let record : Record := [("owner", .object [("rank", two)])]
    (Predicate.compare "$owner.rank$" .notIn (.array [.null, one])).holds record = true ∧
      (Predicate.compare "$owner.rank$" .notIn (.array [.null, two])).holds record = false ∧
      (Predicate.compare "$owner.tag$" .notIn (.array [one])).holds record = false ∧
      (Predicate.compare "$owner.rank$" .gt .null).holds record = false := by
  intro one two record
  obtain ⟨notInWays, notInMissing, _⟩ := @compare_beside_null .notIn (by decide)
  obtain ⟨_, _, gtRule⟩ := @compare_beside_null .gt (by decide)
  have rank : record.field "$owner.rank$" = two := by rfl
  have tag : record.field "$owner.tag$" = .null := by rfl
  refine ⟨?_, ?_, ?_, ?_⟩
  · have others : ∀ item ∈ [.null, one], Comparison.eq.holds two item = false := by
      rw [List.forall_mem_cons, List.forall_mem_singleton]
      exact ⟨by decide, by decide +kernel⟩
    rw [notInWays _ _ _ (.item List.mem_cons_self), rank]
    exact .notAmong Json.noConfusion others
  · rw [← Bool.not_eq_true, notInWays _ _ _ (.item List.mem_cons_self), rank]
    intro met
    cases met with
    | notAmong _ others => exact absurd (others two (by simp)) (by decide +kernel)
  · exact notInMissing _ _ _ (Record.field_eq_iff.mp tag)
  · exact gtRule.mpr (by decide) _ _ _ .value

/-- One differs from null, and from two and null. -/
theorem compare_met_beside_null :
    let one : Json := ofUInt64 1
    let two : Json := ofUInt64 2
    let record : Record := [("a", one)]
    MeetsNull record "a" .ne .null ∧ (Predicate.compare "a" .ne .null).holds record = true ∧
      MeetsNull record "a" .notIn (.array [two, .null]) ∧
      (Predicate.compare "a" .notIn (.array [two, .null])).holds record = true := by
  intro one two record
  have listed : Json.null ∈ [two, .null] := by simp
  exact ⟨.value, by decide, .item listed, by decide +kernel⟩

end QueryCompiler
