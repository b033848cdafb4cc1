import QueryCompiler.Proofs.Filter.Translate
import QueryCompiler.Proofs.Predicate.RoundTrip

/-!
# Predicates of well-formed expressions

A predicate compares with values that its expression holds, so it is well-formed
when the expression is.  Of a translator that is not known nothing more is asked.
-/

namespace QueryCompiler

open Json

/-- A translator takes well-formed expressions to predicates over well-formed
values.  No value in memory names a key twice, so every translator does. -/
def FilterTranslator.KeepsWellFormed (translator : FilterTranslator) : Prop :=
  ∀ expression predicate,
    expression.WellFormed → translator expression = .ok predicate → predicate.WellFormed

namespace Filter

/-! ## Fields -/

private theorem wellFormed_of_translateOperator {field operator : String} {operand : Json}
    {predicate : Predicate} (wellFormed : operand.WellFormed)
    (translated : translateOperator field operator operand = .ok predicate) :
    predicate.WellFormed := by
  unfold translateOperator at translated
  split at translated
  · cases translated
  · split at translated
    · cases translated
      exact .compare field _ wellFormed
    · cases translated

private theorem wellFormed_of_translateOperators {field : String} {members : Json.Members}
    {predicates : List Predicate} (wellFormed : ∀ member ∈ members, member.2.WellFormed)
    (translated : translateOperators field members = .ok predicates) :
    ∀ predicate ∈ predicates, predicate.WellFormed := by
  induction members generalizing predicates with
  | nil =>
      cases translated
      exact List.forall_mem_nil _
  | cons member members inductionHypothesis =>
      obtain ⟨first, rest⟩ := List.forall_mem_cons.mp wellFormed
      rw [translateOperators] at translated
      obtain ⟨_, _, firstTranslated, restTranslated, rfl⟩ := Outcome.cons_eq_ok.mp translated
      exact List.forall_mem_cons.mpr ⟨wellFormed_of_translateOperator first firstTranslated,
        inductionHypothesis rest restTranslated⟩

private theorem wellFormed_conjunction {predicates : List Predicate}
    (wellFormed : ∀ predicate ∈ predicates, predicate.WellFormed) :
    (conjunction predicates).WellFormed := by
  match predicates with
  | [] => exact .always
  | [predicate] => exact List.forall_mem_singleton.mp wellFormed
  | _ :: _ :: _ => exact .all wellFormed

private theorem wellFormed_of_translateField {field : String} {value : Json} {predicate : Predicate}
    (wellFormed : value.WellFormed) (translated : translateField field value = .ok predicate) :
    predicate.WellFormed := by
  cases value with
  | object members =>
      obtain ⟨predicates, operatorsTranslated, rfl⟩ := Outcome.map_eq_ok.mp translated
      exact wellFormed_conjunction
        (wellFormed_of_translateOperators wellFormed.member operatorsTranslated)
  | _ =>
      cases translated
      exact .compare field _ wellFormed

/-! ## Expressions -/

private theorem wellFormed_of_translateMember {key : String} {value : Json} {predicate : Predicate}
    (nested : ∀ {operand : Predicate}, translateNested key value = .ok operand →
      operand.WellFormed)
    (joined : ∀ {operands : List Predicate}, translateList key value = .ok operands →
      ∀ operand ∈ operands, operand.WellFormed)
    (wellFormed : value.WellFormed) (translated : translateMember key value = .ok predicate) :
    predicate.WellFormed := by
  cases of_translateMember translated with
  | all _ listTranslated => exact .all (joined listTranslated)
  | any _ listTranslated => exact .any (joined listTranslated)
  | negation _ operandTranslated => exact .negation (nested operandTranslated)
  | field _ _ _ _ fieldTranslated => exact wellFormed_of_translateField wellFormed fieldTranslated

mutual

private theorem wellFormed_of_translateMembers :
    ∀ {entries : Json.Members} {predicates : List Predicate},
      (∀ entry ∈ entries, entry.2.WellFormed) → translateMembers entries = .ok predicates →
        ∀ predicate ∈ predicates, predicate.WellFormed
  | [], _, _, translated => by
      rw [translateMembers] at translated
      cases translated
      exact List.forall_mem_nil _
  | (key, value) :: entries, _, wellFormed, translated => by
      obtain ⟨valueWellFormed, restWellFormed⟩ := List.forall_mem_cons.mp wellFormed
      rw [translateMembers] at translated
      obtain ⟨first, rest, firstTranslated, restTranslated, rfl⟩ :=
        Outcome.cons_eq_ok.mp translated
      have firstWellFormed : first.WellFormed := wellFormed_of_translateMember
        (fun translated => wellFormed_of_translateNested valueWellFormed translated)
        (fun translated => wellFormed_of_translateList valueWellFormed translated)
        valueWellFormed firstTranslated
      exact List.forall_mem_cons.mpr
        ⟨firstWellFormed, wellFormed_of_translateMembers restWellFormed restTranslated⟩

private theorem wellFormed_of_translateList {operator : String} :
    ∀ {value : Json} {predicates : List Predicate}, value.WellFormed →
      translateList operator value = .ok predicates →
        ∀ predicate ∈ predicates, predicate.WellFormed
  | .array items, _, wellFormed, translated => by
      rw [translateList] at translated
      exact wellFormed_of_translateItems wellFormed.item translated
  | .object entries, _, wellFormed, translated => by
      rw [translateList] at translated
      exact wellFormed_of_translateMembers wellFormed.member translated
  | .null, _, _, translated | .bool _, _, _, translated | .number _, _, _, translated
  | .string _, _, _, translated => by simp [translateList] at translated

private theorem wellFormed_of_translateItems {operator : String} :
    ∀ {items : List Json} {predicates : List Predicate}, (∀ item ∈ items, item.WellFormed) →
      translateItems operator items = .ok predicates →
        ∀ predicate ∈ predicates, predicate.WellFormed
  | [], _, _, translated => by
      rw [translateItems] at translated
      cases translated
      exact List.forall_mem_nil _
  | item :: items, _, wellFormed, translated => by
      obtain ⟨itemWellFormed, restWellFormed⟩ := List.forall_mem_cons.mp wellFormed
      rw [translateItems] at translated
      obtain ⟨first, rest, firstTranslated, restTranslated, rfl⟩ :=
        Outcome.cons_eq_ok.mp translated
      exact List.forall_mem_cons.mpr
        ⟨wellFormed_of_translateNested itemWellFormed firstTranslated,
          wellFormed_of_translateItems restWellFormed restTranslated⟩

private theorem wellFormed_of_translateNested {operator : String} :
    ∀ {value : Json} {predicate : Predicate}, value.WellFormed →
      translateNested operator value = .ok predicate → predicate.WellFormed
  | .object entries, _, wellFormed, translated => by
      rw [translateNested] at translated
      obtain ⟨predicates, membersTranslated, rfl⟩ := Outcome.map_eq_ok.mp translated
      exact wellFormed_conjunction
        (wellFormed_of_translateMembers wellFormed.member membersTranslated)
  | .null, _, _, translated | .bool _, _, _, translated | .number _, _, _, translated
  | .string _, _, _, translated | .array _, _, _, translated => by
      simp [translateNested] at translated

end

/-- The filter dialect keeps values as they are. -/
theorem keepsWellFormed_translate : FilterTranslator.KeepsWellFormed translate := by
  intro expression predicate wellFormed translated
  cases expression with
  | null =>
      cases translated
      exact .always
  | object entries =>
      obtain ⟨predicates, membersTranslated, rfl⟩ := Outcome.map_eq_ok.mp translated
      exact wellFormed_conjunction
        (wellFormed_of_translateMembers wellFormed.member membersTranslated)
  | _ => cases translated

end Filter

end QueryCompiler
