import QueryCompiler.Predicate.Holds
import QueryCompiler.Proofs.Binary64.Integers

/-!
# Comparisons of integers

Numbers are compared as doubles, integers too: the comparisons of two integers answer for the
integers of their first 53 binary digits.  They are exact just when this tells the two apart,
as it does unless both lie beyond `2 ^ 53` and within 2048 of each other.
-/

namespace QueryCompiler

open Binary64 (nearestInteger)

namespace Json.Number

private theorem natAbs_lt_of_toInt? {number : Number} {value : Int}
    (integral : number.toInt? = some value) : value.natAbs < Nat.pow 2 64 := by
  cases number with
  | natural natural =>
      cases integral
      exact natural.toNat_lt
  | negative below =>
      cases integral
      have bound := below.isLt
      have wider : Nat.pow 2 63 < Nat.pow 2 64 := by decide
      rw [Int.natAbs_negSucc]
      omega
  | float => cases integral

private theorem toBinary64_of_toInt? {number : Number} {value : Int}
    (integral : number.toInt? = some value) : number.toBinary64 = .ofInt value := by
  cases number with
  | natural natural =>
      cases integral
      rfl
  | negative below =>
      cases integral
      rfl
  | float => cases integral

private theorem compare_of_toInt? {left right : Number} {leftValue rightValue : Int}
    (leftIntegral : left.toInt? = some leftValue)
    (rightIntegral : right.toInt? = some rightValue) :
    left.compare right = Ord.compare (nearestInteger leftValue) (nearestInteger rightValue) := by
  rw [compare, toBinary64_of_toInt? leftIntegral, toBinary64_of_toInt? rightIntegral]
  exact Binary64.compare_ofInt (natAbs_lt_of_toInt? leftIntegral)
    (natAbs_lt_of_toInt? rightIntegral)

private theorem compare_of_same {left right : Number} (same : left.same right = true) :
    left.compare right = .eq := by
  cases left with
  | natural value =>
      cases right with
      | natural other =>
          cases eq_of_beq same
          exact Int.compare_eq_eq.mpr rfl
      | _ => cases same
  | negative below =>
      cases right with
      | negative other =>
          cases eq_of_beq same
          exact Int.compare_eq_eq.mpr rfl
      | _ => cases same
  | float value =>
      cases right with
      | float other => exact Int.compare_eq_eq.mpr (eq_of_beq same)
      | _ => cases same

end Json.Number

/-! ## Comparisons by order -/

/-- The six comparisons by order, of a field with a value, answer as two integers stand to
each other. -/
structure ComparedAs (record : Record) (field : String) (value : Json) (left right : Int) :
    Prop where
  eq : (Predicate.compare field .eq value).holds record = true ↔ left = right
  ne : (Predicate.compare field .ne value).holds record = true ↔ left ≠ right
  gt : (Predicate.compare field .gt value).holds record = true ↔ left > right
  gte : (Predicate.compare field .gte value).holds record = true ↔ left ≥ right
  lt : (Predicate.compare field .lt value).holds record = true ↔ left < right
  lte : (Predicate.compare field .lte value).holds record = true ↔ left ≤ right

namespace Json

variable {left right : Number}

theorem order?_number_beq_iff {order : Ordering} :
    ((number left).order? (number right) == some order) = true ↔ left.compare right = order := by
  simp [order?]

/-- Numbers are equal in a comparison when neither is before the other. -/
theorem looselyEqual_number_iff :
    (number left).looselyEqual (number right) = true ↔ left.compare right = .eq := by
  have same : (number left).same (number right) = true → left.compare right = .eq := by
    rw [Json.same]
    exact Number.compare_of_same
  simp only [looselyEqual, isNull, Bool.or_self, Bool.false_eq_true, if_false, Bool.or_eq_true,
    order?_number_beq_iff]
  exact or_iff_left_of_imp same

end Json

/-- Different integers that stay different when they are rounded to 53 digits. -/
def ToldApart (left right : Int) : Prop :=
  nearestInteger left = nearestInteger right → left = right

private theorem toldApart_or_near {left right : Int} (leftSmall : left.natAbs < Nat.pow 2 64)
    (rightSmall : right.natAbs < Nat.pow 2 64) :
    ToldApart left right ∨
      Nat.pow 2 53 ≤ left.natAbs ∧ Nat.pow 2 53 ≤ right.natAbs ∧
        (left - right).natAbs ≤ 2048 := by
  by_cases same : nearestInteger left = nearestInteger right
  · by_cases equal : left = right
    · exact .inl fun _ => equal
    · exact .inr ⟨Binary64.le_natAbs_of_nearestInteger_eq same equal,
        Binary64.le_natAbs_of_nearestInteger_eq same.symm (Ne.symm equal),
        Binary64.natAbs_sub_le_of_nearestInteger_eq leftSmall rightSmall same⟩
  · exact .inl fun other => absurd other same

section

variable {record : Record} {field : String} {actual : Json.Number} {value : Int}

/-- Comparisons of integers answer for the integers of their first 53 digits. -/
theorem comparedAs_nearestInteger (held : record.field field = .number actual)
    (integral : actual.toInt? = some value) {expected : Json.Number} {other : Int}
    (otherIntegral : expected.toInt? = some other) :
    ComparedAs record field (.number expected) (nearestInteger value) (nearestInteger other) := by
  have ordered := Json.Number.compare_of_toInt? integral otherIntegral
  constructor
  case eq =>
    rw [Predicate.holds, held, Comparison.holds, Json.looselyEqual_number_iff, ordered,
      Int.compare_eq_eq]
  case ne =>
    have present : (Json.number actual).isNull = false := rfl
    rw [Predicate.holds, held, Comparison.holds, present, Bool.not_false, Bool.true_and,
      Bool.not_eq_true', ← Bool.not_eq_true, Json.looselyEqual_number_iff, ordered,
      Int.compare_eq_eq]
  case gt =>
    rw [Predicate.holds, held, Comparison.holds, Json.order?_number_beq_iff, ordered,
      Int.compare_eq_gt]
  case gte =>
    rw [Predicate.holds, held, Comparison.holds, Json.atLeast, Bool.or_eq_true,
      Json.order?_number_beq_iff, Json.order?_number_beq_iff, ordered, Int.compare_eq_gt,
      Int.compare_eq_eq]
    omega
  case lt =>
    rw [Predicate.holds, held, Comparison.holds, Json.order?_number_beq_iff, ordered,
      Int.compare_eq_lt]
  case lte =>
    rw [Predicate.holds, held, Comparison.holds, Json.atMost, Bool.or_eq_true,
      Json.order?_number_beq_iff, Json.order?_number_beq_iff, ordered, Int.compare_eq_lt,
      Int.compare_eq_eq]
    omega

/-- If comparisons answer for the rounded integers, they answer for the integers themselves
just when rounding does not make different ones equal. -/
theorem ComparedAs.exact_iff {expected : Json} {left right : Int}
    (compared : ComparedAs record field expected (nearestInteger left) (nearestInteger right)) :
    ComparedAs record field expected left right ↔ ToldApart left right := by
  constructor
  · intro exact same
    exact exact.eq.mp (compared.eq.mpr same)
  · intro toldApart
    -- Rounding keeps the order, and here it keeps it strictly.
    have equal : nearestInteger left = nearestInteger right ↔ left = right :=
      ⟨toldApart, congrArg nearestInteger⟩
    have forth : left ≤ right → nearestInteger left ≤ nearestInteger right :=
      Binary64.nearestInteger_mono
    have back : right ≤ left → nearestInteger right ≤ nearestInteger left :=
      Binary64.nearestInteger_mono
    exact
      { eq := compared.eq.trans equal
        ne := compared.ne.trans (not_congr equal)
        gt := compared.gt.trans (by omega)
        gte := compared.gte.trans (by omega)
        lt := compared.lt.trans (by omega)
        lte := compared.lte.trans (by omega) }

private theorem isIn_iff_exists_nearestInteger_eq (held : record.field field = .number actual)
    (integral : actual.toInt? = some value) {numbers : List Json.Number} {members : List Int}
    (allIntegral : numbers.map Json.Number.toInt? = members.map some) :
    (Predicate.compare field .isIn (.array (numbers.map .number))).holds record = true ↔
      ∃ member ∈ members, nearestInteger value = nearestInteger member := by
  have equal : ∀ {number : Json.Number} {member : Int}, number.toInt? = some member →
      ((Json.number actual).looselyEqual (.number number) = true ↔
        nearestInteger value = nearestInteger member) := by
    intro number member memberIntegral
    rw [Json.looselyEqual_number_iff, Json.Number.compare_of_toInt? integral memberIntegral,
      Int.compare_eq_eq]
  rw [Predicate.holds, held, Comparison.holds, Json.isAmong, List.any_map, List.any_eq_true]
  constructor
  · rintro ⟨number, inNumbers, same⟩
    have listed : number.toInt? ∈ members.map some :=
      allIntegral ▸ List.mem_map_of_mem inNumbers
    obtain ⟨member, inMembers, memberIntegral⟩ := List.mem_map.mp listed
    exact ⟨member, inMembers, (equal memberIntegral.symm).mp same⟩
  · rintro ⟨member, inMembers, same⟩
    have listed : some member ∈ numbers.map Json.Number.toInt? :=
      allIntegral ▸ List.mem_map_of_mem inMembers
    obtain ⟨number, inNumbers, memberIntegral⟩ := List.mem_map.mp listed
    exact ⟨number, inNumbers, (equal memberIntegral).mpr same⟩

/-- Comparisons of integers answer for the integers of their first 53 digits.  They are exact
if and only if this tells the two apart, as it does up to `2 ^ 53` and farther from each other
than 2048; being among others is exact if all of those are told apart from the value. -/
theorem comparedAs_iff_toldApart (held : record.field field = .number actual)
    (integral : actual.toInt? = some value) :
    (∀ expected other, expected.toInt? = some other →
      ComparedAs record field (.number expected) (nearestInteger value)
          (nearestInteger other) ∧
        (ComparedAs record field (.number expected) value other ↔ ToldApart value other) ∧
        (ToldApart value other ∨
          Nat.pow 2 53 ≤ value.natAbs ∧ Nat.pow 2 53 ≤ other.natAbs ∧
            (value - other).natAbs ≤ 2048)) ∧
      ∀ (numbers : List Json.Number) (members : List Int),
        numbers.map Json.Number.toInt? = members.map some →
        ((Predicate.compare field .isIn (.array (numbers.map .number))).holds record = true ↔
            ∃ member ∈ members, nearestInteger value = nearestInteger member) ∧
          ((∀ member ∈ members, ToldApart value member) →
            ((Predicate.compare field .isIn (.array (numbers.map .number))).holds record = true ↔
              value ∈ members)) := by
  constructor
  · intro expected other otherIntegral
    have compared := comparedAs_nearestInteger held integral otherIntegral
    exact ⟨compared, compared.exact_iff,
      toldApart_or_near (Json.Number.natAbs_lt_of_toInt? integral)
        (Json.Number.natAbs_lt_of_toInt? otherIntegral)⟩
  · intro numbers members allIntegral
    have among := isIn_iff_exists_nearestInteger_eq held integral allIntegral
    refine ⟨among, fun toldApart => among.trans ⟨?_, fun member => ⟨value, member, rfl⟩⟩⟩
    rintro ⟨member, inMembers, same⟩
    exact toldApart member inMembers same ▸ inMembers

/-- Beyond `2 ^ 53` neighbours are told apart only if they have different doubles. -/
theorem comparedAs_beyond_limit :
    let record : Record := [("id", .number (.natural 9007199254740993))]
    ComparedAs record "id" (.number (.natural 9007199254740994)) 9007199254740993
        9007199254740994 ∧
      (Predicate.compare "id" .isIn
        (.array ([.natural 5, .natural 9007199254740992].map Json.number))).holds record =
          true := by
  intro record
  have held : record.field "id" = .number (.natural 9007199254740993) := by rfl
  obtain ⟨compared, among⟩ := comparedAs_iff_toldApart held rfl
  have toldApart : ToldApart 9007199254740993 9007199254740994 := by
    intro same
    exact absurd same (by decide)
  have near := among [.natural 5, .natural 9007199254740992] [5, 9007199254740992] rfl
  exact ⟨(compared (.natural 9007199254740994) _ rfl).2.1.mpr toldApart,
    near.1.mpr ⟨9007199254740992, by simp, by decide⟩⟩

/-- `2 ^ 53` and its successor are equal in comparisons, though `is` tells them apart. -/
theorem not_comparedAs_of_same_double :
    let record : Record := [("id", .number (.natural 9007199254740992))]
    let value : Json := .number (.natural 9007199254740993)
    (Predicate.compare "id" .eq value).holds record = true ∧
      (Predicate.compare "id" .isIn (.array [value])).holds record = true ∧
      (Predicate.compare "id" .is value).holds record = false ∧
      ¬ ComparedAs record "id" value 9007199254740992 9007199254740993 := by
  intro record value
  have equal : (Predicate.compare "id" .eq value).holds record = true := by decide +kernel
  have among : (Predicate.compare "id" .isIn (.array [value])).holds record = true := by
    decide +kernel
  have other : (Predicate.compare "id" .is value).holds record = false := by decide +kernel
  refine ⟨equal, among, other, fun compared => ?_⟩
  exact absurd (compared.eq.mp equal) (by decide)

end

end QueryCompiler
