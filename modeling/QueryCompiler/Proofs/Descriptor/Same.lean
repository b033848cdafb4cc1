import QueryCompiler.Proofs.Descriptor.Fingerprint
import QueryCompiler.Proofs.Json.Same

/-!
# Equality of descriptors

Descriptors are compared part by part, and the values they hold as JSON values: the
order of keys and the sign of a zero do not count.  Equal descriptors that are written
alike in these two respects are one descriptor.
-/

namespace QueryCompiler

open Json

/-- Optional values are the same when both are missing or both are there and the same. -/
def sameOption {α : Type} (same : α → α → Bool) : Option α → Option α → Bool
  | none, none => true
  | some value, some other => same value other
  | _, _ => false

private theorem eq_of_sameOption {α : Type} {same : α → α → Bool} {option other : Option α}
    (sameOptions : sameOption same option other = true)
    (each : ∀ value ∈ option, ∀ otherValue ∈ other, same value otherValue = true →
      value = otherValue) : option = other := by
  cases option with
  | none =>
      cases other with
      | none => rfl
      | some otherValue => cases sameOptions
  | some value =>
      cases other with
      | none => cases sameOptions
      | some otherValue => rw [each value rfl otherValue rfl sameOptions]

/-! ## Predicates -/

namespace Predicate

mutual

/-- Equality of predicates. -/
def same : Predicate → Predicate → Bool
  | .always, .always => true
  | .all operands, .all others => sameItems operands others
  | .any operands, .any others => sameItems operands others
  | .negation operand, .negation other => same operand other
  | .compare field comparison value, .compare otherField otherComparison otherValue =>
      field == otherField && comparison == otherComparison && value.same otherValue
  | _, _ => false

def sameItems : List Predicate → List Predicate → Bool
  | [], [] => true
  | operand :: operands, other :: others => same operand other && sameItems operands others
  | _, _ => false

end

mutual

theorem eq_of_same : ∀ {predicate other : Predicate}, other.WellFormed →
    predicate.same other = true → Aligned predicate.toJson other.toJson → predicate = other
  | .always, other, _, same, _ => by cases other <;> simp [Predicate.same] at same ⊢
  | .all operands, other, wellFormed, same, aligned => by
      cases other with
      | all others =>
          cases wellFormed with
          | all each =>
              rw [Predicate.same] at same
              have items : AlignedItems (toJsonItems operands) (toJsonItems others) := by
                simpa [toJson, Aligned, AlignedMembers] using aligned
              rw [eq_of_sameItems each same items]
      | _ => simp [Predicate.same] at same
  | .any operands, other, wellFormed, same, aligned => by
      cases other with
      | any others =>
          cases wellFormed with
          | any each =>
              rw [Predicate.same] at same
              have items : AlignedItems (toJsonItems operands) (toJsonItems others) := by
                simpa [toJson, Aligned, AlignedMembers] using aligned
              rw [eq_of_sameItems each same items]
      | _ => simp [Predicate.same] at same
  | .negation operand, other, wellFormed, same, aligned => by
      cases other with
      | negation negated =>
          cases wellFormed with
          | negation inner =>
              rw [Predicate.same] at same
              have alignedInner : Aligned operand.toJson negated.toJson := by
                simpa [toJson, Aligned, AlignedMembers] using aligned
              rw [eq_of_same inner same alignedInner]
      | _ => simp [Predicate.same] at same
  | .compare field comparison value, other, wellFormed, same, aligned => by
      cases other with
      | compare otherField otherComparison otherValue =>
          cases wellFormed with
          | compare _ _ compared =>
              rw [Predicate.same, Bool.and_eq_true, Bool.and_eq_true, beq_iff_eq,
                beq_iff_eq] at same
              obtain ⟨⟨rfl, rfl⟩, sameValue⟩ := same
              have alignedValue : Aligned value otherValue := by
                simpa [toJson, Aligned, AlignedMembers] using aligned
              rw [Json.eq_of_same compared sameValue alignedValue]
      | _ => simp [Predicate.same] at same

private theorem eq_of_sameItems : ∀ {operands others : List Predicate},
    (∀ other ∈ others, other.WellFormed) → sameItems operands others = true →
      AlignedItems (toJsonItems operands) (toJsonItems others) → operands = others
  | [], [], _, _, _ => rfl
  | [], _ :: _, _, same, _ => by simp [sameItems] at same
  | _ :: _, [], _, same, _ => by simp [sameItems] at same
  | operand :: operands, other :: others, wellFormed, same, aligned => by
      obtain ⟨first, rest⟩ := List.forall_mem_cons.mp wellFormed
      rw [sameItems, Bool.and_eq_true] at same
      rw [toJsonItems, toJsonItems, AlignedItems] at aligned
      rw [eq_of_same first same.1 aligned.1, eq_of_sameItems rest same.2 aligned.2]

end

end Predicate

/-! ## Included associations -/

/-- Equality of expansions without their entries. -/
def Expansion.same (expansion other : Expansion) : Bool :=
  expansion.targetKey == other.targetKey && expansion.target == other.target &&
    expansion.name == other.name &&
    sameOption Predicate.same expansion.condition other.condition &&
    expansion.isRequired == other.isRequired && expansion.limit == other.limit &&
    expansion.separate == other.separate && expansion.order == other.order &&
    sameOption Json.same expansion.attributes other.attributes

namespace Include

mutual

/-- Equality of entries. -/
def same : Include → Include → Bool
  | .name association, .name other => association == other
  | .expand expansion nested, .expand other others =>
      expansion.same other && sameItems nested others
  | _, _ => false

def sameItems : List Include → List Include → Bool
  | [], [] => true
  | entry :: entries, other :: others => same entry other && sameItems entries others
  | _, _ => false

end

private theorem aligned_of_written {expansion other : Expansion} {nested others : List Json}
    (aligned : AlignedMembers (expansionMembers expansion ++ listMember "include" nested)
      (expansionMembers other ++ listMember "include" others)) {key : String}
    (field : key ∈ fieldNames) {value otherValue : Json}
    (found : written expansion nested key = some value)
    (otherFound : written other others key = some otherValue) : Aligned value otherValue := by
  rw [← lookup_expansion expansion nested field] at found
  rw [← lookup_expansion other others field] at otherFound
  exact aligned.lookup found otherFound

private theorem alignedItems_of_expansion {expansion other : Expansion} {nested others : List Json}
    (aligned : AlignedMembers (expansionMembers expansion ++ listMember "include" nested)
      (expansionMembers other ++ listMember "include" others)) : AlignedItems nested others := by
  cases nested with
  | nil => simp [AlignedItems]
  | cons item nested =>
      cases others with
      | nil => simp [AlignedItems]
      | cons otherItem others =>
          have items : Aligned (.array (item :: nested)) (.array (otherItem :: others)) :=
            aligned_of_written aligned (by decide : "include" ∈ fieldNames) rfl rfl
          rwa [Aligned] at items

private theorem eq_of_sameExpansion {expansion other : Expansion} {nested others : List Json}
    (restorable : other.Restorable) (same : expansion.same other = true)
    (aligned : AlignedMembers (expansionMembers expansion ++ listMember "include" nested)
      (expansionMembers other ++ listMember "include" others)) : expansion = other := by
  simp only [Expansion.same, Bool.and_eq_true, beq_iff_eq] at same
  obtain ⟨⟨⟨⟨⟨⟨⟨⟨targetKey, target⟩, name⟩, conditions⟩, isRequired⟩, limit⟩, separate⟩, order⟩,
    attributes⟩ := same
  have condition : expansion.condition = other.condition := by
    refine eq_of_sameOption conditions ?_
    intro predicate found otherPredicate otherFound samePredicate
    have alignedCondition : Aligned predicate.toJson otherPredicate.toJson :=
      aligned_of_written aligned (by decide : "where" ∈ fieldNames)
        (congrArg (Option.map Predicate.toJson) found)
        (congrArg (Option.map Predicate.toJson) otherFound)
    exact Predicate.eq_of_same (restorable.condition _ otherFound) samePredicate alignedCondition
  have selection : expansion.attributes = other.attributes := by
    refine eq_of_sameOption attributes fun value found otherValue otherFound sameValue => ?_
    have alignedValue : Aligned value otherValue :=
      aligned_of_written aligned (by decide : "attributes" ∈ fieldNames) found otherFound
    exact Json.eq_of_same (restorable.attributes _ otherFound).1 sameValue alignedValue
  cases expansion
  cases other
  simp_all

mutual

theorem eq_of_same : ∀ {entry other : Include}, other.Restorable → entry.same other = true →
    Aligned entry.toJson other.toJson → entry = other
  | .name association, other, _, same, _ => by
      cases other with
      | name otherAssociation =>
          rw [Include.same, beq_iff_eq] at same
          rw [same]
      | expand _ _ => cases same
  | .expand expansion nested, other, restorable, same, aligned => by
      cases other with
      | name _ => cases same
      | expand other others =>
          cases restorable with
          | expand options entries =>
              rw [Include.same, Bool.and_eq_true] at same
              rw [toJson, toJson, Aligned] at aligned
              have sameOptions := eq_of_sameExpansion options same.1 aligned
              rw [sameOptions,
                eq_of_sameItems entries same.2 (alignedItems_of_expansion aligned)]

private theorem eq_of_sameItems : ∀ {entries others : List Include},
    (∀ other ∈ others, other.Restorable) → sameItems entries others = true →
      AlignedItems (toJsonItems entries) (toJsonItems others) → entries = others
  | [], [], _, _, _ => rfl
  | [], _ :: _, _, same, _ => by simp [sameItems] at same
  | _ :: _, [], _, same, _ => by simp [sameItems] at same
  | entry :: entries, other :: others, restorable, same, aligned => by
      obtain ⟨first, rest⟩ := List.forall_mem_cons.mp restorable
      rw [sameItems, Bool.and_eq_true] at same
      rw [toJsonItems, toJsonItems, AlignedItems] at aligned
      rw [eq_of_same first same.1 aligned.1, eq_of_sameItems rest same.2 aligned.2]

end

end Include

/-! ## Descriptors -/

/-- Equality of descriptors.  Options are compared without regard to their order. -/
def Descriptor.same (descriptor other : Descriptor) : Bool :=
  descriptor.offset == other.offset && descriptor.limit == other.limit &&
    descriptor.order == other.order && Include.sameItems descriptor.includes other.includes &&
    descriptor.attributes == other.attributes && descriptor.condition.same other.condition &&
    (Json.object descriptor.options).same (.object other.options)

namespace Descriptor

private theorem aligned_of_written {descriptor other : Descriptor}
    (restorable : descriptor.Restorable)
    (otherRestorable : other.Restorable) (aligned : Aligned descriptor.toJson other.toJson)
    {key : String} (reserved : key ∈ reservedKeys) {value otherValue : Json}
    (found : descriptor.written key = some value)
    (otherFound : other.written key = some otherValue) : Aligned value otherValue := by
  rw [← lookup_toMembers restorable.options.free reserved] at found
  rw [← lookup_toMembers otherRestorable.options.free reserved] at otherFound
  rw [toJson, toJson, Aligned] at aligned
  exact aligned.lookup found otherFound

/-- Equal descriptors that are written alike are one descriptor. -/
theorem eq_of_same {descriptor other : Descriptor} (restorable : descriptor.Restorable)
    (otherRestorable : other.Restorable) (same : descriptor.same other = true)
    (aligned : Aligned descriptor.toJson other.toJson) : descriptor = other := by
  simp only [Descriptor.same, Bool.and_eq_true, beq_iff_eq] at same
  obtain ⟨⟨⟨⟨⟨⟨offset, limit⟩, order⟩, includes⟩, attributes⟩, conditions⟩, options⟩ := same
  have entries : descriptor.includes = other.includes := by
    have items : Aligned (.array (Include.toJsonItems descriptor.includes))
        (.array (Include.toJsonItems other.includes)) :=
      aligned_of_written restorable otherRestorable aligned (by decide : "include" ∈ reservedKeys)
        rfl rfl
    rw [Aligned] at items
    exact Include.eq_of_sameItems otherRestorable.includes includes items
  have condition : descriptor.condition = other.condition := by
    have alignedCondition : Aligned descriptor.condition.toJson other.condition.toJson :=
      aligned_of_written restorable otherRestorable aligned (by decide : "where" ∈ reservedKeys)
        rfl rfl
    exact Predicate.eq_of_same otherRestorable.condition conditions alignedCondition
  have option : descriptor.options = other.options := by
    rw [toJson, toJson, Aligned] at aligned
    have kept := aligned.filter fun key => key ∉ reservedKeys
    rw [filter_toMembers restorable.options.free,
      filter_toMembers otherRestorable.options.free] at kept
    have alignedOptions : Aligned (.object descriptor.options) (.object other.options) := by
      rw [Aligned]
      exact kept
    have wellFormed : (Json.object other.options).WellFormed :=
      .object otherRestorable.options.nodup otherRestorable.options.wellFormed
    exact Json.object.inj (Json.eq_of_same wellFormed options alignedOptions)
  cases descriptor
  cases other
  simp_all

end Descriptor

end QueryCompiler
