import QueryCompiler.Proofs.Descriptor.Written
import QueryCompiler.Proofs.Filter.Translate
import QueryCompiler.Proofs.Json.Within

/-!
# Nesting of translated expressions

A predicate is written with more nesting than its expression has.  The worst case is
`$not` with several members: one level of the expression becomes a negation, and a
conjunction that is an object with a list.  So the nesting grows by a factor of three
at most.
-/

namespace QueryCompiler

open Json

/-! ## Predicates -/

namespace Predicate

variable {limit : Nat}

private theorem within_toJsonItems {operands : List Predicate}
    (each : ∀ operand ∈ operands, operand.toJson.Within limit) :
    (Json.array (toJsonItems operands)).Within (limit + 1) := by
  rw [toJsonItems_eq_map]
  exact .array (List.forall_mem_map.mpr each)

theorem within_always : (toJson .always).Within (limit + 1) :=
  .object (List.forall_mem_singleton.mpr (.string "true"))

theorem within_all {operands : List Predicate}
    (each : ∀ operand ∈ operands, operand.toJson.Within limit) :
    (toJson (.all operands)).Within (limit + 2) :=
  .object (List.forall_mem_cons.mpr
    ⟨.string "and", List.forall_mem_singleton.mpr (within_toJsonItems each)⟩)

private theorem within_any {operands : List Predicate}
    (each : ∀ operand ∈ operands, operand.toJson.Within limit) :
    (toJson (.any operands)).Within (limit + 2) :=
  .object (List.forall_mem_cons.mpr
    ⟨.string "or", List.forall_mem_singleton.mpr (within_toJsonItems each)⟩)

private theorem within_negation {operand : Predicate} (within : operand.toJson.Within limit) :
    (toJson (.negation operand)).Within (limit + 1) :=
  .object (List.forall_mem_cons.mpr ⟨.string "not", List.forall_mem_singleton.mpr within⟩)

private theorem within_compare (field : String) (comparison : Comparison) {value : Json}
    (within : value.Within limit) :
    (toJson (.compare field comparison value)).Within (limit + 1) := by
  apply Within.object
  simp only [List.forall_mem_cons]
  exact ⟨.string "compare", .string field, .string comparison.name, within,
    List.forall_mem_nil _⟩

end Predicate

namespace Filter

variable {limit : Nat}

/-! ## Fields -/

private theorem within_conjunction {predicates : List Predicate}
    (each : ∀ predicate ∈ predicates, predicate.toJson.Within (limit + 1)) :
    (conjunction predicates).toJson.Within (limit + 3) := by
  match predicates with
  | [] => exact Predicate.within_always
  | [predicate] => exact (List.forall_mem_singleton.mp each).mono (by omega)
  | _ :: _ :: _ => exact Predicate.within_all each

private theorem within_of_translateOperators {field : String} {members : Json.Members}
    {predicates : List Predicate} (within : ∀ member ∈ members, member.2.Within limit)
    (translated : translateOperators field members = .ok predicates) :
    ∀ predicate ∈ predicates, predicate.toJson.Within (limit + 1) := by
  induction members generalizing predicates with
  | nil =>
      cases translated
      exact List.forall_mem_nil _
  | cons member members inductionHypothesis =>
      obtain ⟨operator, operand⟩ := member
      obtain ⟨first, rest⟩ := List.forall_mem_cons.mp within
      rw [translateOperators] at translated
      obtain ⟨condition, conditions, firstTranslated, restTranslated, rfl⟩ :=
        Outcome.cons_eq_ok.mp translated
      have firstWithin : condition.toJson.Within (limit + 1) := by
        unfold translateOperator at firstTranslated
        split at firstTranslated
        · cases firstTranslated
        · split at firstTranslated
          · cases firstTranslated
            exact Predicate.within_compare field _ first
          · cases firstTranslated
      exact List.forall_mem_cons.mpr ⟨firstWithin, inductionHypothesis rest restTranslated⟩

private theorem within_of_translateField {field : String} {value : Json} {predicate : Predicate}
    (within : value.Within limit) (translated : translateField field value = .ok predicate) :
    predicate.toJson.Within (3 * limit + 1) := by
  cases value with
  | object members =>
      obtain ⟨inner, rfl, each⟩ := within.members
      obtain ⟨predicates, operatorsTranslated, rfl⟩ := Outcome.map_eq_ok.mp translated
      have operators := within_of_translateOperators each operatorsTranslated
      exact (within_conjunction operators).mono (by omega)
  | _ =>
      cases translated
      exact (Predicate.within_compare field _ within).mono (by omega)

/-! ## Expressions -/

mutual

private theorem within_of_translateMembers :
    ∀ {entries : Json.Members} {predicates : List Predicate} {limit : Nat},
      (∀ entry ∈ entries, entry.2.Within limit) → translateMembers entries = .ok predicates →
        ∀ predicate ∈ predicates, predicate.toJson.Within (3 * limit + 1)
  | [], _, _, _, translated => by
      rw [translateMembers] at translated
      cases translated
      exact List.forall_mem_nil _
  | (key, value) :: entries, _, limit, within, translated => by
      obtain ⟨valueWithin, restWithin⟩ := List.forall_mem_cons.mp within
      rw [translateMembers] at translated
      obtain ⟨first, rest, firstTranslated, restTranslated, rfl⟩ :=
        Outcome.cons_eq_ok.mp translated
      have firstWithin : first.toJson.Within (3 * limit + 1) := by
        cases of_translateMember firstTranslated with
        | all _ listTranslated =>
            obtain ⟨inner, rfl, operands⟩ := within_of_translateList valueWithin listTranslated
            exact (Predicate.within_all operands).mono (by omega)
        | any _ listTranslated =>
            obtain ⟨inner, rfl, operands⟩ := within_of_translateList valueWithin listTranslated
            exact (Predicate.within_any operands).mono (by omega)
        | negation _ operandTranslated =>
            -- Only a negation reaches the bound: it adds its level to a conjunction.
            have operand := within_of_translateNested valueWithin operandTranslated
            exact Predicate.within_negation operand
        | field _ _ _ _ fieldTranslated =>
            exact within_of_translateField valueWithin fieldTranslated
      have restPredicates := within_of_translateMembers restWithin restTranslated
      exact List.forall_mem_cons.mpr ⟨firstWithin, restPredicates⟩

/-- The operands stand one level deeper than the list or the object that holds them. -/
theorem within_of_translateList {operator : String} :
    ∀ {value : Json} {predicates : List Predicate} {limit : Nat}, value.Within limit →
      translateList operator value = .ok predicates →
        ∃ inner, limit = inner + 1 ∧
          ∀ predicate ∈ predicates, predicate.toJson.Within (3 * inner + 1)
  | .array items, _, _, within, translated => by
      rw [translateList] at translated
      obtain ⟨inner, rfl, each⟩ := within.items
      have operands := within_of_translateItems each translated
      exact ⟨inner, rfl, fun predicate member => (operands predicate member).mono (by omega)⟩
  | .object entries, _, _, within, translated => by
      rw [translateList] at translated
      obtain ⟨inner, rfl, each⟩ := within.members
      exact ⟨inner, rfl, within_of_translateMembers each translated⟩
  | .null, _, _, _, translated | .bool _, _, _, _, translated | .number _, _, _, _, translated
  | .string _, _, _, _, translated => by simp [translateList] at translated

private theorem within_of_translateItems {operator : String} :
    ∀ {items : List Json} {predicates : List Predicate} {limit : Nat},
      (∀ item ∈ items, item.Within limit) → translateItems operator items = .ok predicates →
        ∀ predicate ∈ predicates, predicate.toJson.Within (3 * limit)
  | [], _, _, _, translated => by
      rw [translateItems] at translated
      cases translated
      exact List.forall_mem_nil _
  | item :: items, _, _, within, translated => by
      obtain ⟨itemWithin, restWithin⟩ := List.forall_mem_cons.mp within
      rw [translateItems] at translated
      obtain ⟨first, rest, firstTranslated, restTranslated, rfl⟩ :=
        Outcome.cons_eq_ok.mp translated
      exact List.forall_mem_cons.mpr ⟨within_of_translateNested itemWithin firstTranslated,
        within_of_translateItems restWithin restTranslated⟩

private theorem within_of_translateNested {operator : String} :
    ∀ {value : Json} {predicate : Predicate} {limit : Nat}, value.Within limit →
      translateNested operator value = .ok predicate → predicate.toJson.Within (3 * limit)
  | .object entries, _, _, within, translated => by
      rw [translateNested] at translated
      obtain ⟨inner, rfl, each⟩ := within.members
      obtain ⟨predicates, membersTranslated, rfl⟩ := Outcome.map_eq_ok.mp translated
      have operands := within_of_translateMembers each membersTranslated
      exact (within_conjunction operands).mono (by omega)
  | .null, _, _, _, translated | .bool _, _, _, _, translated | .number _, _, _, _, translated
  | .string _, _, _, _, translated | .array _, _, _, _, translated => by
      simp [translateNested] at translated

end

/-- An object is translated as it is within another expression. -/
theorem translate_object (operator : String) (entries : Json.Members) :
    translate (.object entries) = translateNested operator (.object entries) := by
  rw [translate, translateNested]

/-- The nesting of an expression grows by a factor of three at most. -/
theorem within_of_translate {expression : Json} {predicate : Predicate}
    (within : expression.Within limit) (translated : translate expression = .ok predicate) :
    predicate.toJson.Within (max 1 (3 * limit)) := by
  cases expression with
  | null =>
      cases translated
      exact Predicate.within_always.mono (Nat.le_max_left 1 _)
  | object entries =>
      rw [translate_object "$not"] at translated
      exact (within_of_translateNested within translated).mono (Nat.le_max_right 1 _)
  | _ => cases translated

end Filter

end QueryCompiler
