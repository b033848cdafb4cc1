import QueryCompiler.Proofs.Descriptor.Nesting
import QueryCompiler.Proofs.Digest.Hex

/-!
# Fingerprints

What is written for a descriptor tells the descriptor, and so does the text of it
when all its numbers are integers.  Two such descriptors share a fingerprint only if
they are equal or their texts collide.

That a field was left out, cleared or set is told by what is found under its key, so
each record below is taken apart by looking its fields up.
-/

namespace QueryCompiler

open Json

/-! ## Predicates -/

/-- Names are told apart when each is found in a list of variants again. -/
theorem injective_of_lookup {α : Type} {name : α → String} {variants : List (String × α)}
    (found : ∀ value, variants.lookup (name value) = some value) : Function.Injective name := by
  intro value other same
  have both := found value
  rw [same, found other] at both
  exact (Option.some.inj both).symm

theorem Comparison.name_injective : Function.Injective Comparison.name :=
  injective_of_lookup lookup_variants_name

namespace Predicate

mutual

/-- What is written for a predicate tells the predicate. -/
theorem eq_of_toJson_eq :
    ∀ {predicate other : Predicate}, predicate.toJson = other.toJson → predicate = other
  | .always, other, same => by
      cases other <;> simp [toJson] at same ⊢
  | .all operands, other, same => by
      cases other with
      | all others =>
          have items : toJsonItems operands = toJsonItems others := by simpa [toJson] using same
          rw [eq_of_toJsonItems_eq items]
      | _ => simp [toJson] at same
  | .any operands, other, same => by
      cases other with
      | any others =>
          have items : toJsonItems operands = toJsonItems others := by simpa [toJson] using same
          rw [eq_of_toJsonItems_eq items]
      | _ => simp [toJson] at same
  | .negation operand, other, same => by
      cases other with
      | negation negated =>
          have inner : operand.toJson = negated.toJson := by simpa [toJson] using same
          rw [eq_of_toJson_eq inner]
      | _ => simp [toJson] at same
  | .compare field comparison value, other, same => by
      cases other with
      | compare otherField otherComparison otherValue =>
          obtain ⟨fields, names, values⟩ : field = otherField ∧
              comparison.name = otherComparison.name ∧ value = otherValue := by
            simpa [toJson] using same
          rw [fields, Comparison.name_injective names, values]
      | _ => simp [toJson] at same

private theorem eq_of_toJsonItems_eq :
    ∀ {operands others : List Predicate},
      toJsonItems operands = toJsonItems others → operands = others
  | [], [], _ => rfl
  | [], _ :: _, same => by simp [toJsonItems] at same
  | _ :: _, [], same => by simp [toJsonItems] at same
  | operand :: operands, other :: others, same => by
      rw [toJsonItems, toJsonItems] at same
      obtain ⟨first, rest⟩ := List.cons.inj same
      rw [eq_of_toJson_eq first, eq_of_toJsonItems_eq rest]

end

theorem toJson_injective : Function.Injective toJson := fun _ _ => eq_of_toJson_eq

end Predicate

/-! ## Members -/

theorem optionalMember_injective {α : Type} {encode : α → Json}
    (injective : Function.Injective encode) (key : String) :
    Function.Injective (optionalMember key encode) := by
  intro option other same
  have found := congrArg (List.lookup key) same
  simp only [lookup_optionalMember, if_true] at found
  exact Option.map_injective injective found

theorem Slot.written_injective {α : Type} {encode : α → Json}
    (injective : Function.Injective encode) (present : ∀ value, encode value ≠ .null) :
    Function.Injective (Slot.written encode) := by
  intro slot other same
  cases slot with
  | omitted => cases other <;> simp [written] at same ⊢
  | cleared =>
      cases other with
      | cleared => rfl
      | omitted => simp [written] at same
      | set value => exact absurd (Option.some.inj same).symm (present value)
  | set value =>
      cases other with
      | omitted => simp [written] at same
      | cleared => exact absurd (Option.some.inj same) (present value)
      | set otherValue => rw [injective (Option.some.inj same)]

theorem ofUInt64_injective : Function.Injective ofUInt64 := by
  intro value other same
  cases same
  rfl

theorem string_injective : Function.Injective Json.string := fun _ _ => Json.string.inj

theorem ofStrings_injective : Function.Injective ofStrings := by
  intro texts others same
  exact (List.map_inj_right string_injective).mp (Json.array.inj same)

/-! ## Orders -/

theorem RelationHandle.toJson_injective : Function.Injective RelationHandle.toJson := by
  rintro ⟨model, table⟩ ⟨otherModel, otherTable⟩ same
  obtain ⟨models, tables⟩ : model = otherModel ∧
      optionalMember "table" .string table = optionalMember "table" .string otherTable := by
    simpa [toJson] using same
  rw [models, optionalMember_injective string_injective "table" tables]

theorem RelationQualifier.toJson_injective : Function.Injective RelationQualifier.toJson := by
  rintro ⟨handle, name⟩ ⟨otherHandle, otherName⟩ same
  obtain ⟨handles, names⟩ : handle.toJson = otherHandle.toJson ∧ name = otherName := by
    simpa [toJson] using same
  rw [RelationHandle.toJson_injective handles, names]

theorem Direction.name_injective : Function.Injective Direction.name :=
  injective_of_lookup lookup_variants_name

theorem OrderTerm.toJson_injective : Function.Injective OrderTerm.toJson := by
  rintro ⟨column, direction, relation⟩ ⟨otherColumn, otherDirection, otherRelation⟩ same
  obtain ⟨columns, directions, relations⟩ : column = otherColumn ∧
      direction.name = otherDirection.name ∧
      optionalMember "relation" RelationQualifier.toJson relation =
        optionalMember "relation" RelationQualifier.toJson otherRelation := by
    simpa [toJson] using same
  rw [columns, Direction.name_injective directions,
    optionalMember_injective RelationQualifier.toJson_injective "relation" relations]

theorem orderToJson_injective : Function.Injective orderToJson := by
  intro order other same
  exact (List.map_inj_right OrderTerm.toJson_injective).mp (Json.array.inj same)

/-! ## Included associations -/

namespace Include

/-- What is written for an expansion under one of its keys, if anything is. -/
def written (expansion : Expansion) (nested : List Json) : String → Option Json
  | "targetKey" => some (.string expansion.targetKey)
  | "target" => some expansion.target.toJson
  | "alias" => some (.string expansion.name)
  | "where" => expansion.condition.map Predicate.toJson
  | "required" => expansion.isRequired.map Json.bool
  | "limit" => expansion.limit.map Json.ofUInt64
  | "separate" => expansion.separate.map Json.bool
  | "order" => if expansion.order = [] then none else some (orderToJson expansion.order)
  | "attributes" => expansion.attributes
  | "include" => if nested = [] then none else some (.array nested)
  | _ => none

theorem lookup_expansion (expansion : Expansion) (nested : List Json) {key : String}
    (field : key ∈ fieldNames) :
    (expansionMembers expansion ++ listMember "include" nested).lookup key =
      written expansion nested key := by
  simp only [fieldNames, List.mem_cons, List.not_mem_nil, or_false] at field
  rcases field with rfl | rfl | rfl | rfl | rfl | rfl | rfl | rfl | rfl | rfl <;>
    simp [expansionMembers, written, orderToJson, List.lookup_append, lookup_optionalMember,
      lookup_listMember, List.lookup_cons]

/-- The members of an expansion tell its options and the values of its entries. -/
theorem eq_of_expansion_eq {expansion other : Expansion} {nested others : List Json}
    (same : expansionMembers expansion ++ listMember "include" nested =
      expansionMembers other ++ listMember "include" others) :
    expansion = other ∧ nested = others := by
  have found (key : String) (field : key ∈ fieldNames) :
      written expansion nested key = written other others key := by
    rw [← lookup_expansion expansion nested field, same, lookup_expansion other others field]
  have targetKey := found "targetKey" (by decide)
  have target := found "target" (by decide)
  have name := found "alias" (by decide)
  have condition := found "where" (by decide)
  have isRequired := found "required" (by decide)
  have limit := found "limit" (by decide)
  have separate := found "separate" (by decide)
  have order := found "order" (by decide)
  have attributes := found "attributes" (by decide)
  have entries := found "include" (by decide)
  simp only [written, Option.some.injEq, Json.string.injEq] at targetKey target name attributes
  have bools : Function.Injective Json.bool := fun _ _ => Json.bool.inj
  have orders : expansion.order = other.order := by
    simp only [written] at order
    split at order <;> split at order <;> simp_all [orderToJson_injective.eq_iff]
  refine ⟨?_, ?_⟩
  · obtain ⟨⟩ := expansion
    obtain ⟨⟩ := other
    simp only [Expansion.mk.injEq]
    exact ⟨targetKey, RelationHandle.toJson_injective target, name,
      Option.map_injective Predicate.toJson_injective condition,
      Option.map_injective bools isRequired, Option.map_injective ofUInt64_injective limit,
      Option.map_injective bools separate, orders, attributes⟩
  · simp only [written] at entries
    split at entries <;> split at entries <;> simp_all

mutual

/-- What is written for an entry tells the entry. -/
theorem eq_of_toJson_eq :
    ∀ {entry other : Include}, entry.toJson = other.toJson → entry = other
  | .name association, .name other, same => by
      rw [toJson, toJson] at same
      rw [Json.string.inj same]
  | .name association, .expand expansion nested, same => by
      rw [toJson, toJson] at same
      cases same
  | .expand expansion nested, .name association, same => by
      rw [toJson, toJson] at same
      cases same
  | .expand expansion nested, .expand other others, same => by
      rw [toJson, toJson] at same
      obtain ⟨options, items⟩ := eq_of_expansion_eq (Json.object.inj same)
      rw [options, eq_of_toJsonItems_eq items]

private theorem eq_of_toJsonItems_eq :
    ∀ {entries others : List Include}, toJsonItems entries = toJsonItems others →
      entries = others
  | [], [], _ => rfl
  | [], _ :: _, same => by simp [toJsonItems] at same
  | _ :: _, [], same => by simp [toJsonItems] at same
  | entry :: entries, other :: others, same => by
      rw [toJsonItems, toJsonItems] at same
      obtain ⟨first, rest⟩ := List.cons.inj same
      rw [eq_of_toJson_eq first, eq_of_toJsonItems_eq rest]

end

end Include

/-! ## Descriptors -/

namespace Descriptor

/-- The options are what stands under the keys that are not reserved. -/
theorem filter_toMembers {descriptor : Descriptor}
    (free : ∀ option ∈ descriptor.options, option.1 ∉ reservedKeys) :
    descriptor.toMembers.filter (fun member => member.1 ∉ reservedKeys) =
      descriptor.options := by
  have compiled : descriptor.compiledMembers.filter (fun member => member.1 ∉ reservedKeys) =
      [] := by
    refine List.filter_eq_nil_iff.mpr fun member found => ?_
    have reserved := descriptor.keys_compiledMembers_sublist.subset (List.mem_map_of_mem found)
    simpa using reserved
  have options : descriptor.options.filter (fun member => member.1 ∉ reservedKeys) =
      descriptor.options :=
    List.filter_eq_self.mpr fun member found => decide_eq_true (free member found)
  rw [toMembers_eq, List.filter_append, compiled, options, List.nil_append]

/-- What is written for a descriptor without a reserved option tells the descriptor. -/
theorem eq_of_toJson_eq {descriptor other : Descriptor}
    (free : ∀ option ∈ descriptor.options, option.1 ∉ reservedKeys)
    (otherFree : ∀ option ∈ other.options, option.1 ∉ reservedKeys)
    (same : descriptor.toJson = other.toJson) : descriptor = other := by
  have members : descriptor.toMembers = other.toMembers := Json.object.inj same
  have found (key : String) (reserved : key ∈ reservedKeys) :
      descriptor.written key = other.written key := by
    rw [← lookup_toMembers free reserved, members, lookup_toMembers otherFree reserved]
  have offset := found "offset" (by decide)
  have limit := found "limit" (by decide)
  have order := found "order" (by decide)
  have includes := found "include" (by decide)
  have attributes := found "attributes" (by decide)
  have condition := found "where" (by decide)
  have options : descriptor.options = other.options := by
    rw [← filter_toMembers free, members, filter_toMembers otherFree]
  simp only [written, Option.some.injEq, Json.array.injEq] at includes condition
  obtain ⟨⟩ := descriptor
  obtain ⟨⟩ := other
  simp only [Descriptor.mk.injEq]
  exact ⟨Slot.written_injective ofUInt64_injective (fun _ => Json.noConfusion) offset,
    Slot.written_injective ofUInt64_injective (fun _ => Json.noConfusion) limit,
    Slot.written_injective orderToJson_injective (fun _ => Json.noConfusion) order,
    Include.eq_of_toJsonItems_eq includes, Option.map_injective ofStrings_injective attributes,
    Predicate.eq_of_toJson_eq condition, options⟩

/-- Among descriptors without a reserved option, whose numbers are integers, a text
stands for one descriptor.  A fingerprint does as well, up to colliding texts. -/
theorem eq_of_canonicalText_eq {descriptor other : Descriptor}
    (free : ∀ option ∈ descriptor.options, isReservedKey option.1 = false)
    (otherFree : ∀ option ∈ other.options, isReservedKey option.1 = false)
    (integral : descriptor.toJson.Integral) (otherIntegral : other.toJson.Integral) :
    (descriptor.canonicalText = other.canonicalText → descriptor = other) ∧
      (descriptor.fingerprint = other.fingerprint →
        descriptor = other ∨ Digest.Collide descriptor.canonicalText other.canonicalText) := by
  have texts (sameText : descriptor.canonicalText = other.canonicalText) :
      descriptor = other := by
    have sameValue : descriptor.toJson = other.toJson :=
      eq_of_compact_eq integral otherIntegral sameText
    exact eq_of_toJson_eq
      (fun option member => isReservedKey_eq_false_iff.mp (free option member))
      (fun option member => isReservedKey_eq_false_iff.mp (otherFree option member)) sameValue
  refine ⟨texts, fun sameFingerprint => ?_⟩
  rcases Digest.eq_or_collide_of_sha256Hex_eq sameFingerprint with sameText | collide
  · exact Or.inl (texts sameText)
  · exact Or.inr collide

/-- Whether the offset is cleared or left out is told by the text. -/
theorem canonicalText_tells_cleared_offset :
    let cleared : Descriptor :=
      ⟨.cleared, .omitted, .omitted, [.name "author"], none, .compare "age" .gt (.ofUInt64 7),
        [("trace", .bool true)]⟩
    let omitted : Descriptor := { cleared with offset := .omitted }
    (∀ option ∈ cleared.options, isReservedKey option.1 = false) ∧
      (∀ option ∈ omitted.options, isReservedKey option.1 = false) ∧
      cleared.toJson.Integral ∧ omitted.toJson.Integral ∧
      cleared.canonicalText ≠ omitted.canonicalText ∧
      (cleared.fingerprint = omitted.fingerprint →
        Digest.Collide cleared.canonicalText omitted.canonicalText) := by
  intro cleared omitted
  have free : ∀ option ∈ cleared.options, isReservedKey option.1 = false := by decide
  have entries : ∀ entry ∈ cleared.includes, entry.toJson.Within 3 :=
    List.forall_mem_singleton.mpr (.string "author")
  have condition : cleared.condition.toJson.Within 4 := by
    apply Within.object
    simp only [List.forall_mem_cons]
    exact ⟨.string _, .string _, .string _, .ofUInt64 7, List.forall_mem_nil _⟩
  have options : ∀ option ∈ cleared.options, option.2.Within 4 :=
    List.forall_mem_singleton.mpr (.bool true)
  have within : cleared.toJson.Within 5 := within_toJson entries condition options
  have otherWithin : omitted.toJson.Within 5 := within_toJson entries condition options
  have different : cleared ≠ omitted := fun same => nomatch congrArg offset same
  have otherFree : ∀ option ∈ omitted.options, isReservedKey option.1 = false := free
  obtain ⟨texts, fingerprints⟩ :=
    eq_of_canonicalText_eq free otherFree within.integral otherWithin.integral
  exact ⟨free, otherFree, within.integral, otherWithin.integral, fun same => different (texts same),
    fun same => (fingerprints same).resolve_left different⟩

end Descriptor

end QueryCompiler
