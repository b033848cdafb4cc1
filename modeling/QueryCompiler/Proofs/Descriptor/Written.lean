import QueryCompiler.Proofs.Descriptor.RoundTrip

/-!
# What is written for a descriptor

A value that is written for a descriptor can be held in memory as it is: no
object within it, at any depth, names a key twice.  When no option takes a reserved
key, what stands under such a key is what the compiled field holds.
-/

namespace QueryCompiler

open Json

/-! ## Members -/

section Members

variable {α : Type} {key : String} {property : Json → Prop}

theorem forall_mem_optionalMember {encode : α → Json} {option : Option α}
    (each : ∀ value ∈ option, property (encode value)) :
    ∀ member ∈ optionalMember key encode option, property member.2 := by
  cases option with
  | none => exact List.forall_mem_nil _
  | some value => exact List.forall_mem_singleton.mpr (each value rfl)

theorem forall_mem_listMember {items : List Json} (whole : property (.array items)) :
    ∀ member ∈ listMember key items, property member.2 := by
  cases items with
  | nil => exact List.forall_mem_nil _
  | cons item items => exact List.forall_mem_singleton.mpr whole

theorem Slot.forall_mem_toMember {encode : α → Json} {slot : Slot α} (null : property .null)
    (each : ∀ value, property (encode value)) :
    ∀ member ∈ slot.toMember key encode, property member.2 := by
  cases slot with
  | omitted => exact List.forall_mem_nil _
  | cleared => exact List.forall_mem_singleton.mpr null
  | set value => exact List.forall_mem_singleton.mpr (each value)

end Members

private theorem wellFormed_strings (texts : List String) :
    ∀ item ∈ texts.map Json.string, item.WellFormed :=
  List.forall_mem_map.mpr fun text _ => .string text

/-! ## Predicates -/

theorem Predicate.toJsonItems_eq_map (operands : List Predicate) :
    toJsonItems operands = operands.map toJson := by
  induction operands with
  | nil => rfl
  | cons operand operands inductionHypothesis =>
      rw [toJsonItems, inductionHypothesis, List.map_cons]

/-- What is written for a predicate over well-formed values is well-formed. -/
theorem Predicate.WellFormed.toJson {predicate : Predicate} (wellFormed : predicate.WellFormed) :
    predicate.toJson.WellFormed := by
  have joined {operands : List Predicate} (tag : String)
      (each : ∀ operand ∈ operands, operand.toJson.WellFormed) :
      Json.WellFormed (.object [("type", .string tag),
        ("operands", .array (toJsonItems operands))]) := by
    have items : Json.WellFormed (.array (toJsonItems operands)) := by
      rw [toJsonItems_eq_map]
      exact .array (List.forall_mem_map.mpr each)
    exact .object (by simp) (List.forall_mem_cons.mpr
      ⟨.string tag, List.forall_mem_singleton.mpr items⟩)
  induction wellFormed with
  | always => exact .object (by simp) (List.forall_mem_singleton.mpr (.string "true"))
  | all each inductionHypothesis => exact joined "and" inductionHypothesis
  | any each inductionHypothesis => exact joined "or" inductionHypothesis
  | negation inner inductionHypothesis =>
      exact .object (by simp) (List.forall_mem_cons.mpr
        ⟨.string "not", List.forall_mem_singleton.mpr inductionHypothesis⟩)
  | compare field comparison compared =>
      exact .object (by simp) (List.forall_mem_cons.mpr ⟨.string "compare",
        List.forall_mem_cons.mpr ⟨.string field,
          List.forall_mem_cons.mpr ⟨.string comparison.name,
            List.forall_mem_singleton.mpr compared⟩⟩⟩)

/-! ## Orders -/

theorem RelationHandle.wellFormed_toJson (handle : RelationHandle) :
    handle.toJson.WellFormed := by
  have keys := (keys_optionalMember_sublist "table" Json.string handle.table).cons_cons "model"
  have nodup : ["model", "table"].Nodup := by decide
  exact .object (keys.nodup nodup) (List.forall_mem_cons.mpr
    ⟨.string handle.model, forall_mem_optionalMember fun table _ => .string table⟩)

theorem RelationQualifier.wellFormed_toJson (qualifier : RelationQualifier) :
    qualifier.toJson.WellFormed := by
  have nodup : ["handle", "alias"].Nodup := by decide
  exact .object nodup (List.forall_mem_cons.mpr
    ⟨qualifier.handle.wellFormed_toJson, List.forall_mem_singleton.mpr (.string qualifier.name)⟩)

theorem OrderTerm.wellFormed_toJson (term : OrderTerm) : term.toJson.WellFormed := by
  have relation := keys_optionalMember_sublist "relation" RelationQualifier.toJson term.relation
  have keys := (relation.cons_cons "direction").cons_cons "column"
  have nodup : ["column", "direction", "relation"].Nodup := by decide
  exact .object (keys.nodup nodup) (List.forall_mem_cons.mpr
    ⟨.string term.column, List.forall_mem_cons.mpr ⟨.string term.direction.name,
      forall_mem_optionalMember fun relation _ => relation.wellFormed_toJson⟩⟩)

private theorem wellFormed_terms (order : List OrderTerm) :
    ∀ item ∈ order.map OrderTerm.toJson, item.WellFormed :=
  List.forall_mem_map.mpr fun term _ => term.wellFormed_toJson

/-! ## Included associations -/

namespace Include

private theorem wellFormed_expansionMembers {expansion : Expansion}
    (restorable : expansion.Restorable) :
    ∀ member ∈ expansionMembers expansion, member.2.WellFormed := by
  simp only [expansionMembers, List.forall_mem_append, List.forall_mem_cons]
  refine ⟨⟨⟨⟨⟨⟨⟨.string _, RelationHandle.wellFormed_toJson _, .string _,
    List.forall_mem_nil _⟩, ?_⟩, ?_⟩, ?_⟩, ?_⟩, ?_⟩, ?_⟩
  · exact forall_mem_optionalMember fun predicate member =>
      (restorable.condition predicate member).toJson
  · exact forall_mem_optionalMember fun isRequired _ => .bool isRequired
  · exact forall_mem_optionalMember fun limit _ => .number (.natural limit)
  · exact forall_mem_optionalMember fun separate _ => .bool separate
  · exact forall_mem_listMember (.array (wellFormed_terms expansion.order))
  · exact forall_mem_optionalMember fun value member => (restorable.attributes value member).1

/-- What is written for a restorable entry is well-formed. -/
theorem Restorable.wellFormed_toJson {entry : Include} (restorable : entry.Restorable) :
    entry.toJson.WellFormed := by
  induction restorable with
  | name association => exact .string association
  | @expand expansion nested options entries inductionHypothesis =>
      have nodup : fieldNames.Nodup := by decide
      have keys := keys_expansion_sublist expansion (nested.map toJson)
      have items : ∀ member ∈ listMember "include" (nested.map toJson), member.2.WellFormed :=
        forall_mem_listMember (.array (List.forall_mem_map.mpr inductionHypothesis))
      rw [toJson, toJsonItems_eq_map]
      exact .object (keys.nodup nodup)
        (List.forall_mem_append.mpr ⟨wellFormed_expansionMembers options, items⟩)

end Include

/-! ## Descriptors -/

namespace Descriptor

theorem wellFormed_compiledMembers {descriptor : Descriptor}
    (includes : ∀ entry ∈ descriptor.includes, entry.Restorable)
    (condition : descriptor.condition.WellFormed) :
    ∀ member ∈ descriptor.compiledMembers, member.2.WellFormed := by
  simp only [compiledMembers, List.forall_mem_append, List.forall_mem_singleton]
  refine ⟨⟨⟨⟨⟨?_, ?_⟩, ?_⟩, ?_⟩, ?_⟩, condition.toJson⟩
  · exact Slot.forall_mem_toMember .null fun offset => .number (.natural offset)
  · exact Slot.forall_mem_toMember .null fun limit => .number (.natural limit)
  · exact Slot.forall_mem_toMember .null fun order => .array (wellFormed_terms order)
  · rw [Include.toJsonItems_eq_map]
    exact .array (List.forall_mem_map.mpr fun entry member =>
      (includes entry member).wellFormed_toJson)
  · exact forall_mem_optionalMember fun texts _ => .array (wellFormed_strings texts)

/-- No member of a descriptor is named twice when no option is and no option takes a
reserved key. -/
theorem nodup_keys_toMembers {descriptor : Descriptor}
    (nodup : (descriptor.options.map Prod.fst).Nodup)
    (free : ∀ option ∈ descriptor.options, option.1 ∉ reservedKeys) :
    (descriptor.toMembers.map Prod.fst).Nodup := by
  rw [toMembers_eq, List.map_append, List.nodup_append]
  have keys := descriptor.keys_compiledMembers_sublist
  refine ⟨keys.nodup nodup_reservedKeys, nodup, fun key compiled other passed same => ?_⟩
  obtain ⟨option, member, rfl⟩ := List.mem_map.mp passed
  exact free option member (same ▸ keys.subset compiled)

/-- What is written for a restorable descriptor is well-formed. -/
theorem Restorable.wellFormed_toJson {descriptor : Descriptor}
    (restorable : descriptor.Restorable) : descriptor.toJson.WellFormed := by
  have compiled := wellFormed_compiledMembers restorable.includes restorable.condition
  have nodup := nodup_keys_toMembers restorable.options.nodup restorable.options.free
  exact .object nodup (List.forall_mem_append.mpr ⟨compiled, restorable.options.wellFormed⟩)

end Descriptor

/-! ## Reserved keys -/

/-- What is written for a slot, unless it is omitted. -/
def Slot.written {α : Type} (encode : α → Json) : Slot α → Option Json
  | .omitted => none
  | .cleared => some .null
  | .set value => some (encode value)

private theorem Slot.lookup_toMember {α : Type} (key other : String) (encode : α → Json)
    (slot : Slot α) :
    (slot.toMember key encode).lookup other =
      if other = key then slot.written encode else none := by
  by_cases same : other = key
  · subst same
    cases slot <;> simp [Slot.toMember, Slot.written]
  · have different : (other == key) = false := beq_eq_false_iff_ne.mpr same
    cases slot <;> simp [Slot.toMember, List.lookup_cons, same, different]

theorem Slot.written_ofOption {α : Type} (encode : α → Json) (option : Option α) :
    (Slot.ofOption option).written encode = option.map encode := by
  cases option <;> rfl

namespace Descriptor

/-- What is written for a descriptor under a reserved key, if anything is. -/
def written (descriptor : Descriptor) : String → Option Json
  | "offset" => descriptor.offset.written Json.ofUInt64
  | "limit" => descriptor.limit.written Json.ofUInt64
  | "order" => descriptor.order.written orderToJson
  | "include" => some (.array (Include.toJsonItems descriptor.includes))
  | "attributes" => descriptor.attributes.map Json.ofStrings
  | "where" => some descriptor.condition.toJson
  | _ => none

private theorem lookup_compiledMembers (descriptor : Descriptor) {key : String}
    (reserved : key ∈ reservedKeys) :
    descriptor.compiledMembers.lookup key = descriptor.written key := by
  simp only [reservedKeys, List.mem_cons, List.not_mem_nil, or_false] at reserved
  rcases reserved with rfl | rfl | rfl | rfl | rfl | rfl <;>
    simp [compiledMembers, written, List.lookup_append, Slot.lookup_toMember,
      lookup_optionalMember, List.lookup_cons]

/-- No option takes the place of a compiled field. -/
theorem lookup_toMembers {descriptor : Descriptor}
    (free : ∀ option ∈ descriptor.options, option.1 ∉ reservedKeys) {key : String}
    (reserved : key ∈ reservedKeys) :
    descriptor.toMembers.lookup key = descriptor.written key := by
  have absent : descriptor.options.lookup key = none := by
    refine List.lookup_eq_none_iff.mpr fun option member => bne_iff_ne.mpr fun same => ?_
    exact free option member (same ▸ reserved)
  rw [toMembers_eq, List.lookup_append, absent, Option.or_none,
    lookup_compiledMembers descriptor reserved]

end Descriptor

end QueryCompiler
