import QueryCompiler.Filter.Basic
import QueryCompiler.Proofs.Outcome

/-!
# What a translated member is

The predicate of a member is decided by its key.  `of_translateMember` lists the
forms, so that later proofs do not follow the tests on the key again.
-/

namespace QueryCompiler.Filter

/-- What the predicate of a member is made of. -/
inductive TranslatedMember (key : String) (value : Json) : Predicate → Prop
  | all {operands : List Predicate} (isAnd : key = "$and")
      (translated : translateList key value = .ok operands) :
      TranslatedMember key value (.all operands)
  | any {operands : List Predicate} (isOr : key = "$or")
      (translated : translateList key value = .ok operands) :
      TranslatedMember key value (.any operands)
  | negation {operand : Predicate} (isNot : key = "$not")
      (translated : translateNested key value = .ok operand) :
      TranslatedMember key value (.negation operand)
  | field {predicate : Predicate} (notAnd : key ≠ "$and") (notOr : key ≠ "$or")
      (notNot : key ≠ "$not") (plain : isOperatorLike key = false)
      (translated : translateField key value = .ok predicate) :
      TranslatedMember key value predicate

theorem of_translateMember {key : String} {value : Json} {predicate : Predicate}
    (translated : translateMember key value = .ok predicate) :
    TranslatedMember key value predicate := by
  unfold translateMember at translated
  by_cases isAnd : key = "$and"
  · rw [if_pos isAnd] at translated
    obtain ⟨operands, listTranslated, rfl⟩ := Outcome.map_eq_ok.mp translated
    exact .all isAnd listTranslated
  rw [if_neg isAnd] at translated
  by_cases isOr : key = "$or"
  · rw [if_pos isOr] at translated
    obtain ⟨operands, listTranslated, rfl⟩ := Outcome.map_eq_ok.mp translated
    exact .any isOr listTranslated
  rw [if_neg isOr] at translated
  by_cases isNot : key = "$not"
  · rw [if_pos isNot] at translated
    obtain ⟨operand, operandTranslated, rfl⟩ := Outcome.map_eq_ok.mp translated
    exact .negation isNot operandTranslated
  rw [if_neg isNot] at translated
  by_cases plain : isOperatorLike key = true
  · rw [if_pos plain] at translated
    cases translated
  · rw [if_neg plain] at translated
    exact .field isAnd isOr isNot (eq_false_of_ne_true plain) translated

end QueryCompiler.Filter
