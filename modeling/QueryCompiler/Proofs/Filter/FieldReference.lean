import QueryCompiler.Proofs.Filter.Conditions
import QueryCompiler.Proofs.Predicate.FieldPath

/-!
# What the keys of a filter refer to

A key that a filter sets a condition on is read twice: the translation tells fields from
operators by it, and the evaluation finds a value of the record by it.  Of a key between dollar
signs both see a path through nested objects, and of a key without dots the member of that
name.  Only dollar signs at the end of such a key are lost in the evaluation.
-/

namespace QueryCompiler

/-- A comparison is evaluated on a value: its field reads the value from the record, and the
record meets the comparison as the value stands in the relation to its operand. -/
structure Comparing.EvaluatedOn (comparing : Comparing) (record : Record) (actual : Json) :
    Prop where
  reads : record.field comparing.field = actual
  holds : (Predicate.compare comparing.field comparing.comparison comparing.value).holds record =
    comparing.comparison.holds actual comparing.value

theorem Comparing.evaluatedOn_iff {comparing : Comparing} {record : Record} {actual : Json} :
    comparing.EvaluatedOn record actual ↔ record.field comparing.field = actual := by
  constructor
  · exact EvaluatedOn.reads
  · rintro rfl
    exact ⟨rfl, by rw [Predicate.holds]⟩

namespace Filter

open Json

/-- A key without dots that does not stand between dollar signs. -/
structure PlainKey (key : String) : Prop where
  undotted : '.' ∉ key.toList
  notBetween : ¬ ∃ inner, key.toList = '$' :: (inner ++ ['$'])

/-! ## Keys without dots -/

private theorem plainKey_of_head?_ne {key : String} (undotted : '.' ∉ key.toList)
    (first : key.toList.head? ≠ some '$') : PlainKey key := by
  refine ⟨undotted, ?_⟩
  rintro ⟨inner, between⟩
  exact first (by rw [between, List.head?_cons])

private theorem PlainKey.head?_ne {key : String} (plain : PlainKey key) (names : NamesField key) :
    key.toList.head? ≠ some '$' := by
  rcases names with other | ⟨_, between⟩
  · exact other
  · exact absurd between plain.notBetween

private theorem field_of_plainKey {key : String} (plain : PlainKey key) (names : NamesField key)
    (record : Record) : record.field key = record.member (withoutDollarsBehind key) :=
  Record.field_of_fieldPath_eq_singleton
    (fieldPath_of_undotted plain.undotted (plain.head?_ne names)) record

/-- A key without dots reads the member of its name from every record, unless it ends in a
dollar sign. -/
theorem field_eq_member_iff {key : String} (plain : PlainKey key) (names : NamesField key) :
    (∀ record : Record, record.field key = record.member key) ↔
      key.toList.getLast? ≠ some '$' := by
  constructor
  · intro reads last
    have different := withoutDollarsBehind_ne_self last
    let record : Record := [(withoutDollarsBehind key, .bool true)]
    have shortened : record.field key = .bool true := by
      rw [field_of_plainKey plain names, Record.member, List.lookup_cons_self]
      rfl
    have absent : record.member key = .null := by
      have unequal : (key == withoutDollarsBehind key) = false :=
        beq_eq_false_iff_ne.mpr (Ne.symm different)
      rw [Record.member, List.lookup_cons, unequal]
      rfl
    have contradiction := reads record
    rw [shortened, absent] at contradiction
    cases contradiction
  · intro last record
    rw [field_of_plainKey plain names, withoutDollarsBehind_eq_self last]

/-! ## Comparisons of translated expressions -/

/-- A comparison follows a key: it is evaluated on what the names lead to that the key encloses,
and for a plain key on the member under it, up to dollar signs at its end. -/
structure Follows (comparing : Comparing) (key : String) : Prop where
  field : comparing.field = key
  path : ∀ names, Encloses key names → ∀ record : Record,
    ∃ actual, (Json.object record).Reads names actual ∧ comparing.EvaluatedOn record actual
  plain : PlainKey key → ∀ record : Record,
    comparing.EvaluatedOn record (record.member (withoutDollarsBehind key))
  itself : PlainKey key →
    ((∀ record : Record, comparing.EvaluatedOn record (record.member key)) ↔
      key.toList.getLast? ≠ some '$')

private theorem Condition.Becomes.follows {condition : Condition} {comparing : Comparing}
    (becomes : condition.Becomes comparing) : Follows comparing condition.field := by
  have names := becomes.named
  rw [← becomes.field]
  refine ⟨rfl, ?_, ?_, ?_⟩
  · intro keys encloses record
    have reads : (Json.object record).Reads (fieldPath comparing.field)
        (record.field comparing.field) := Record.field_eq_iff.mp rfl
    rw [encloses.fieldPath_eq] at reads
    exact ⟨_, reads, Comparing.evaluatedOn_iff.mpr rfl⟩
  · intro plain record
    exact Comparing.evaluatedOn_iff.mpr (field_of_plainKey plain names record)
  · intro plain
    simp only [Comparing.evaluatedOn_iff]
    exact field_eq_member_iff plain names

/-- Each comparison of a translated expression follows the key of the condition that it comes
from, one after another in document order.  So it reads what a path between dollar signs leads
to, and the member under a key without dots, unless this key ends in a dollar sign. -/
theorem comparisons_follow_keys {expression : Json} {predicate : Predicate}
    (translated : translate expression = .ok predicate) :
    List.Forall₂ (fun condition comparing => Follows comparing condition.field)
      (conditions expression) predicate.comparisons :=
  (becomes_of_translate translated).imp fun _ _ becomes => becomes.follows

/-- A path under `$or`, a key with a dollar sign behind it, and a key without any. -/
theorem comparisons_follow_keys_joined :
    let one : Json := ofUInt64 1
    let two : Json := ofUInt64 2
    let expression : Json := .object
      [("$or", .array [.object [("$a.b$", .object [("$gt", one)])], .object [("c$", two)]]),
        ("d", one)]
    let predicate : Predicate := .all
      [.any [.compare "$a.b$" .gt one, .compare "c$" .eq two], .compare "d" .eq one]
    let record : Record := [("b", one), ("a", .object [("b", two)])]
    translate expression = .ok predicate ∧ Encloses "$a.b$" ["a", "b"] ∧ PlainKey "c$" ∧
      PlainKey "d" ∧ Comparing.EvaluatedOn ⟨"$a.b$", .gt, one⟩ record two ∧
      (∀ record : Record, Comparing.EvaluatedOn ⟨"c$", .eq, two⟩ record (record.member "c")) ∧
      ∀ record : Record, Comparing.EvaluatedOn ⟨"d", .eq, one⟩ record (record.member "d") := by
  intro one two expression predicate record
  have translated : translate expression = .ok predicate := by cbv
  have encloses : Encloses "$a.b$" ["a", "b"] := by
    constructor <;> decide
  have behind : PlainKey "c$" := plainKey_of_head?_ne (by decide) (by decide)
  have bare : PlainKey "d" := plainKey_of_head?_ne (by decide) (by decide)
  have written : conditions expression =
      [⟨"$a.b$", some "$gt", one⟩, ⟨"c$", none, two⟩, ⟨"d", none, one⟩] := by cbv
  have listed : predicate.comparisons =
      [⟨"$a.b$", .gt, one⟩, ⟨"c$", .eq, two⟩, ⟨"d", .eq, one⟩] := by rfl
  have follow := comparisons_follow_keys translated
  rw [written, listed] at follow
  obtain ⟨ofPath, ofBehind, ofBare, -⟩ := by simpa only [List.forall₂_cons] using follow
  obtain ⟨actual, _, onPath⟩ := ofPath.path _ encloses record
  have held : record.field "$a.b$" = two := by rfl
  obtain rfl : actual = two := onPath.reads.symm.trans held
  have shortened : withoutDollarsBehind "c$" = "c" := by decide
  have onBehind := ofBehind.plain behind
  rw [shortened] at onBehind
  exact ⟨translated, encloses, behind, bare, onPath, onBehind,
    (ofBare.itself bare).mpr (by decide)⟩

/-- The member `a$` is passed over in favour of `a`. -/
theorem not_evaluatedOn_member_of_dollar_behind :
    let one : Json := ofUInt64 1
    let record : Record := [("a$", one), ("a", .null)]
    translate (.object [("a$", one)]) = .ok (.compare "a$" .eq one) ∧ PlainKey "a$" ∧
      Comparison.eq.holds (record.member "a$") one = true ∧
      (Predicate.compare "a$" .eq one).holds record = false ∧
      ¬ Comparing.EvaluatedOn ⟨"a$", .eq, one⟩ record (record.member "a$") := by
  intro one record
  have plain : PlainKey "a$" := plainKey_of_head?_ne (by decide) (by decide)
  have met : Comparison.eq.holds (record.member "a$") one = true := by decide +kernel
  have unmet : (Predicate.compare "a$" .eq one).holds record = false := by decide +kernel
  refine ⟨by cbv, plain, met, unmet, ?_⟩
  intro evaluated
  rw [evaluated.holds, met] at unmet
  cases unmet

end Filter

end QueryCompiler
