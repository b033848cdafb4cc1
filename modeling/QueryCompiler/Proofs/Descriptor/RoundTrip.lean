import QueryCompiler.Descriptor.Basic
import QueryCompiler.Proofs.Descriptor.Include

/-!
# Descriptors are read back as they were written

A descriptor without a reserved option, whose values name no key twice, is
restorable.  It is decoded from the value that was written for it
(`Descriptor.decode_toJson`), and the same value is also decoded as a base
descriptor (`BaseDescriptor.decode_descriptor`).  Only restorable descriptors of
either kind are ever decoded.
-/

namespace QueryCompiler

open Json

/-- A descriptor that is read back. -/
structure Descriptor.Restorable (descriptor : Descriptor) : Prop where
  includes : ∀ entry ∈ descriptor.includes, entry.Restorable
  condition : descriptor.condition.WellFormed
  options : Beside reservedKeys descriptor.options

/-- A base descriptor whose parts are read back. -/
structure BaseDescriptor.Restorable (base : BaseDescriptor) : Prop where
  includes : ∀ entry ∈ base.includes, entry.Restorable
  condition : ∀ predicate ∈ base.condition, predicate.WellFormed
  options : Beside reservedKeys base.options

theorem nodup_reservedKeys : reservedKeys.Nodup := by decide

theorem isReservedKey_eq_false_iff {key : String} :
    isReservedKey key = false ↔ key ∉ reservedKeys := by
  rw [isReservedKey, List.contains_eq_mem, decide_eq_false_iff_not]

/-! ## Slots -/

namespace Slot

variable {α σ : Type}

private theorem decode_of_ok {decode : Decoder α} {draft : Draft} {value : α}
    (decoded : decode draft = .ok value) (present : draft ≠ .null) :
    Slot.decode decode draft = .ok (.set value) := by
  rw [Slot.decode, decodeOption_of_ok decoded present]
  rfl

private theorem keys_toMember_sublist (key : String) (encode : α → Json) (slot : Slot α) :
    ((slot.toMember key encode).map Prod.fst).Sublist [key] := by
  cases slot with
  | omitted => exact List.nil_sublist _
  | cleared => exact List.Sublist.refl _
  | set value => exact List.Sublist.refl _

/-- An omitted slot is found unset, a cleared one is set by null, and every other
one by its value. -/
theorem fills {sets : String → Json → σ → σ → Prop} {key : String} {encode : α → Json}
    {slot : Slot α} (put : Slot α → σ)
    (cleared : sets key .null (put .omitted) (put .cleared))
    (present : ∀ value, sets key (encode value) (put .omitted) (put (.set value))) :
    Fills sets (put .omitted) (slot.toMember key encode) (put slot) := by
  cases slot with
  | omitted => exact .done _
  | cleared => exact .single cleared
  | set value => exact .single (present value)

end Slot

/-! ## Descriptors -/

namespace Descriptor

/-- The members that are written for the compiled fields. -/
def compiledMembers (descriptor : Descriptor) : Json.Members :=
  descriptor.offset.toMember "offset" Json.ofUInt64 ++
    descriptor.limit.toMember "limit" Json.ofUInt64 ++
    descriptor.order.toMember "order" orderToJson ++
    [("include", .array (Include.toJsonItems descriptor.includes))] ++
    optionalMember "attributes" Json.ofStrings descriptor.attributes ++
    [("where", descriptor.condition.toJson)]

theorem toMembers_eq (descriptor : Descriptor) :
    descriptor.toMembers = descriptor.compiledMembers ++ descriptor.options := rfl

/-- The compiled fields are written under reserved keys, in their order. -/
theorem keys_compiledMembers_sublist (descriptor : Descriptor) :
    (descriptor.compiledMembers.map Prod.fst).Sublist reservedKeys := by
  simp only [compiledMembers, List.map_append]
  exact (Slot.keys_toMember_sublist "offset" _ _)
    |>.append (Slot.keys_toMember_sublist "limit" _ _)
    |>.append (Slot.keys_toMember_sublist "order" _ _)
    |>.append (List.Sublist.refl ["include"])
    |>.append (keys_optionalMember_sublist "attributes" _ _)
    |>.append (List.Sublist.refl ["where"])

theorem fills_compiledMembers {descriptor : Descriptor} (restorable : descriptor.Restorable)
    (source : Source) :
    Fills (shape source).Sets (shape source).empty descriptor.compiledMembers
      ⟨descriptor.offset, descriptor.limit, descriptor.order, descriptor.includes,
        descriptor.attributes, some descriptor.condition⟩ := by
  obtain ⟨offset, limit, order, includes, attributes, condition, options⟩ := descriptor
  have offsetFills : Fills (shape source).Sets ⟨.omitted, .omitted, .omitted, [], none, none⟩
      (offset.toMember "offset" Json.ofUInt64) ⟨offset, .omitted, .omitted, [], none, none⟩ :=
    Slot.fills (fun offset => Partial.mk offset .omitted .omitted [] none none) rfl fun _ => rfl
  have limitFills : Fills (shape source).Sets ⟨offset, .omitted, .omitted, [], none, none⟩
      (limit.toMember "limit" Json.ofUInt64) ⟨offset, limit, .omitted, [], none, none⟩ :=
    Slot.fills (fun limit => Partial.mk offset limit .omitted [] none none) rfl fun _ => rfl
  have orderFills : Fills (shape source).Sets ⟨offset, limit, .omitted, [], none, none⟩
      (order.toMember "order" orderToJson) ⟨offset, limit, order, [], none, none⟩ := by
    refine Slot.fills (fun order => Partial.mk offset limit order [] none none) rfl fun order => ?_
    have decoded := OrderTerm.decodeList_orderToJson order source
    exact Outcome.bind_pure_of_ok (Slot.decode_of_ok decoded Draft.noConfusion) _
  have includeFills : Fills (shape source).Sets ⟨offset, limit, order, [], none, none⟩
      [("include", .array (Include.toJsonItems includes))]
      ⟨offset, limit, order, includes, none, none⟩ :=
    .single (Outcome.bind_pure_of_ok (Include.decodeList_toJsonItems restorable.includes) _)
  have attributeFills : Fills (shape source).Sets ⟨offset, limit, order, includes, none, none⟩
      (optionalMember "attributes" Json.ofStrings attributes)
      ⟨offset, limit, order, includes, attributes, none⟩ := by
    refine Fills.optionalMember
      (fun attributes => Partial.mk offset limit order includes attributes none) fun texts _ => ?_
    have decoded := decodeOption_of_ok (decodeList_strings texts) Draft.noConfusion
    exact Outcome.bind_pure_of_ok decoded _
  have conditionFills : Fills (shape source).Sets
      ⟨offset, limit, order, includes, attributes, none⟩ [("where", condition.toJson)]
      ⟨offset, limit, order, includes, attributes, some condition⟩ :=
    .single (Outcome.bind_pure_of_ok (Predicate.decode_toJson restorable.condition source) _)
  exact offsetFills.append limitFills |>.append orderFills |>.append includeFills
    |>.append attributeFills |>.append conditionFills

/-- A descriptor is decoded from the value that was written for it. -/
theorem decode_toJson {descriptor : Descriptor} (restorable : descriptor.Restorable)
    (source : Source) : decode source (Draft.ofJson descriptor.toJson) = .ok descriptor := by
  rw [toJson, toMembers_eq]
  exact RecordShape.decodeOpen_of_fills (fills_compiledMembers restorable source)
    descriptor.keys_compiledMembers_sublist nodup_reservedKeys restorable.options rfl

/-- What the compiled fields that were met hold is read back. -/
structure Partial.Restorable (fields : Partial) : Prop where
  includes : ∀ entry ∈ fields.includes, entry.Restorable
  condition : ∀ predicate ∈ fields.condition, predicate.WellFormed

private theorem restorable_of_set {source : Source} (key : String) (draft : Draft)
    (before after : Partial) (restorable : before.Restorable)
    (set : (shape source).set key draft before = .ok after) : after.Restorable := by
  simp only [shape] at set
  split at set
  case h_4 =>
    obtain ⟨includes, decoded, last⟩ := Outcome.bind_eq_ok.mp set
    cases last
    exact ⟨Include.decode_yields.list draft includes decoded, restorable.condition⟩
  case h_6 =>
    obtain ⟨condition, decoded, last⟩ := Outcome.bind_eq_ok.mp set
    cases last
    have wellFormed := Predicate.decode_yields source draft condition decoded
    exact ⟨restorable.includes, fun _ member => Option.some.inj member ▸ wellFormed⟩
  all_goals
    obtain ⟨_, _, last⟩ := Outcome.bind_eq_ok.mp set
    cases last
    exact ⟨restorable.includes, restorable.condition⟩

/-- Every descriptor that is decoded is read back. -/
theorem decode_yields (source : Source) : Yields (decode source) Restorable := by
  intro draft descriptor decoded
  have start : (shape source).empty.Restorable :=
    ⟨List.forall_mem_nil _, fun _ member => nomatch member⟩
  obtain ⟨partly, finish, others, restorable, finished, beside, rfl⟩ :=
    RecordShape.decodeOpen_yields start restorable_of_set draft descriptor decoded
  obtain ⟨condition, found, last⟩ := Outcome.bind_eq_ok.mp finished
  cases last
  have wellFormed := restorable.condition condition (Predicate.eq_some_of_required found)
  exact ⟨restorable.includes, wellFormed, beside⟩

end Descriptor

/-! ## Base descriptors -/

/-- The base descriptor that a descriptor is read as.  A cleared slot adds nothing,
like an omitted one. -/
def Descriptor.asBase (descriptor : Descriptor) : BaseDescriptor where
  offset := descriptor.offset.value?
  limit := descriptor.limit.value?
  order := descriptor.order.value?
  includes := descriptor.includes
  attributes := descriptor.attributes.getD []
  condition := some descriptor.condition
  options := descriptor.options

theorem Descriptor.Restorable.asBase {descriptor : Descriptor}
    (restorable : descriptor.Restorable) : descriptor.asBase.Restorable where
  includes := restorable.includes
  condition := fun _ member => Option.some.inj member ▸ restorable.condition
  options := restorable.options

namespace BaseDescriptor

private theorem fills_compiledMembers {descriptor : Descriptor} (restorable : descriptor.Restorable)
    (source : Source) :
    Fills (shape source).Sets (shape source).empty descriptor.compiledMembers
      { descriptor.asBase with options := [] } := by
  obtain ⟨offset, limit, order, includes, attributes, condition, options⟩ := descriptor
  have offsetFills : Fills (shape source).Sets ⟨none, none, none, [], [], none, []⟩
      (offset.toMember "offset" Json.ofUInt64) ⟨offset.value?, none, none, [], [], none, []⟩ :=
    Slot.fills (fun offset => BaseDescriptor.mk offset.value? none none [] [] none [])
      rfl fun _ => rfl
  have limitFills : Fills (shape source).Sets ⟨offset.value?, none, none, [], [], none, []⟩
      (limit.toMember "limit" Json.ofUInt64)
      ⟨offset.value?, limit.value?, none, [], [], none, []⟩ :=
    Slot.fills (fun limit => BaseDescriptor.mk offset.value? limit.value? none [] [] none [])
      rfl fun _ => rfl
  have orderFills : Fills (shape source).Sets
      ⟨offset.value?, limit.value?, none, [], [], none, []⟩
      (order.toMember "order" orderToJson)
      ⟨offset.value?, limit.value?, order.value?, [], [], none, []⟩ := by
    refine Slot.fills (fun order =>
      BaseDescriptor.mk offset.value? limit.value? order.value? [] [] none [])
      rfl fun order => ?_
    have decoded := OrderTerm.decodeList_orderToJson order source
    exact Outcome.bind_pure_of_ok (decodeOption_of_ok decoded Draft.noConfusion) _
  have includeFills : Fills (shape source).Sets
      ⟨offset.value?, limit.value?, order.value?, [], [], none, []⟩
      [("include", .array (Include.toJsonItems includes))]
      ⟨offset.value?, limit.value?, order.value?, includes, [], none, []⟩ :=
    .single (Outcome.bind_pure_of_ok (Include.decodeList_toJsonItems restorable.includes) _)
  have attributeFills : Fills (shape source).Sets
      ⟨offset.value?, limit.value?, order.value?, includes, [], none, []⟩
      (optionalMember "attributes" Json.ofStrings attributes)
      ⟨offset.value?, limit.value?, order.value?, includes, attributes.getD [], none, []⟩ :=
    Fills.optionalMember (fun attributes => BaseDescriptor.mk offset.value? limit.value?
      order.value? includes (attributes.getD []) none [])
      fun texts _ => Outcome.bind_pure_of_ok (decodeList_strings texts) _
  have conditionFills : Fills (shape source).Sets
      ⟨offset.value?, limit.value?, order.value?, includes, attributes.getD [], none, []⟩
      [("where", condition.toJson)]
      ⟨offset.value?, limit.value?, order.value?, includes, attributes.getD [],
        some condition, []⟩ := by
    have decoded := Predicate.decode_toJson restorable.condition source
    exact .single (Outcome.bind_pure_of_ok
      (decodeOption_of_ok decoded condition.ofJson_toJson_ne_null) _)
  exact offsetFills.append limitFills |>.append orderFills |>.append includeFills
    |>.append attributeFills |>.append conditionFills

/-- What is written for a descriptor is decoded as a base descriptor as well. -/
theorem decode_descriptor {descriptor : Descriptor} (restorable : descriptor.Restorable)
    (source : Source) :
    decode source (Draft.ofJson descriptor.toJson) = .ok descriptor.asBase := by
  rw [Descriptor.toJson, Descriptor.toMembers_eq]
  exact RecordShape.decodeOpen_of_fills (fills_compiledMembers restorable source)
    descriptor.keys_compiledMembers_sublist nodup_reservedKeys restorable.options rfl

private theorem restorable_of_set {source : Source} (key : String) (draft : Draft)
    (before after : BaseDescriptor) (restorable : before.Restorable)
    (set : (shape source).set key draft before = .ok after) : after.Restorable := by
  simp only [shape] at set
  split at set
  case h_4 =>
    obtain ⟨includes, decoded, last⟩ := Outcome.bind_eq_ok.mp set
    cases last
    have entries := Include.decode_yields.list draft includes decoded
    exact ⟨entries, restorable.condition, restorable.options⟩
  case h_6 =>
    obtain ⟨condition, decoded, last⟩ := Outcome.bind_eq_ok.mp set
    cases last
    have wellFormed := (Predicate.decode_yields source).option draft condition decoded
    exact ⟨restorable.includes, wellFormed, restorable.options⟩
  all_goals
    obtain ⟨_, _, last⟩ := Outcome.bind_eq_ok.mp set
    cases last
    exact ⟨restorable.includes, restorable.condition, restorable.options⟩

theorem restorable_empty : BaseDescriptor.empty.Restorable where
  includes := List.forall_mem_nil _
  condition := fun _ member => nomatch member
  options := ⟨List.nodup_nil, List.forall_mem_nil _, List.forall_mem_nil _⟩

/-- Every base descriptor that is decoded has parts that are read back. -/
theorem decode_yields (source : Source) : Yields (decode source) Restorable := by
  intro draft base decoded
  obtain ⟨partly, finish, others, restorable, finished, beside, rfl⟩ :=
    RecordShape.decodeOpen_yields restorable_empty restorable_of_set draft base decoded
  cases finished
  exact ⟨restorable.includes, restorable.condition, beside⟩

end BaseDescriptor

end QueryCompiler
