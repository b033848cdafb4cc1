import QueryCompiler.Proofs.Descriptor.Written
import QueryCompiler.Proofs.Json.TooDeep
import QueryCompiler.Proofs.Json.Within

/-!
# Nesting of descriptors

How deep a descriptor is nested when it is written, given its parts.  Only its
entries, its condition and its options can be nested deep, and all of these are
refused when they are nested too deep.  So the text of a descriptor is read back
exactly if it keeps the limit (`Descriptor.decodeText_canonicalText`).
-/

namespace QueryCompiler

open Json

variable {limit : Nat}

/-! ## Orders -/

theorem RelationHandle.within_toJson (handle : RelationHandle) :
    handle.toJson.Within (limit + 1) :=
  .object (List.forall_mem_cons.mpr
    ⟨.string handle.model, forall_mem_optionalMember fun table _ => .string table⟩)

theorem RelationQualifier.within_toJson (qualifier : RelationQualifier) :
    qualifier.toJson.Within (limit + 2) :=
  .object (List.forall_mem_cons.mpr
    ⟨qualifier.handle.within_toJson, List.forall_mem_singleton.mpr (.string qualifier.name)⟩)

theorem OrderTerm.within_toJson (term : OrderTerm) : term.toJson.Within (limit + 3) :=
  .object (List.forall_mem_cons.mpr
    ⟨.string term.column, List.forall_mem_cons.mpr ⟨.string term.direction.name,
      forall_mem_optionalMember fun relation _ => relation.within_toJson⟩⟩)

private theorem within_orderToJson (order : List OrderTerm) :
    (orderToJson order).Within (limit + 4) :=
  .array (List.forall_mem_map.mpr fun term _ => term.within_toJson)

/-! ## Included associations -/

namespace Include

private theorem within_expansionMembers {expansion : Expansion}
    (condition : ∀ predicate ∈ expansion.condition, predicate.toJson.Within (limit + 4))
    (attributes : ∀ value ∈ expansion.attributes, value.Within (limit + 4)) :
    ∀ member ∈ expansionMembers expansion, member.2.Within (limit + 4) := by
  simp only [expansionMembers, List.forall_mem_append, List.forall_mem_cons]
  refine ⟨⟨⟨⟨⟨⟨⟨.string _, expansion.target.within_toJson, .string _,
    List.forall_mem_nil _⟩, ?_⟩, ?_⟩, ?_⟩, ?_⟩, ?_⟩, ?_⟩
  · exact forall_mem_optionalMember condition
  · exact forall_mem_optionalMember fun isRequired _ => .bool isRequired
  · exact forall_mem_optionalMember fun limit _ => .ofUInt64 limit
  · exact forall_mem_optionalMember fun separate _ => .bool separate
  · exact forall_mem_listMember (within_orderToJson expansion.order)
  · exact forall_mem_optionalMember attributes

/-- The entries of an expansion stand two levels deeper than the expansion itself. -/
theorem within_expand (limit : Nat) {expansion : Expansion} {nested : List Include}
    (condition : ∀ predicate ∈ expansion.condition, predicate.toJson.Within (limit + 4))
    (attributes : ∀ value ∈ expansion.attributes, value.Within (limit + 4))
    (entries : ∀ entry ∈ nested, entry.toJson.Within (limit + 3)) :
    (toJson (.expand expansion nested)).Within (limit + 5) := by
  have items : ∀ member ∈ listMember "include" (nested.map toJson),
      member.2.Within (limit + 4) :=
    forall_mem_listMember (.array (List.forall_mem_map.mpr entries))
  rw [toJson, toJsonItems_eq_map]
  exact .object (List.forall_mem_append.mpr
    ⟨within_expansionMembers condition attributes, items⟩)

private theorem refuses_decode (value : Json) : Refuses decode limit value :=
  refuses_bind_read _ value

end Include

/-! ## Predicates -/

namespace Predicate

private theorem holdMembers_limited_of_lt_depth (source : Source) (seen : Option Form)
    {members : Json.Members} (untagged : "type" ∉ members.map Prod.fst)
    (deep : limit < depthOfMembers members) :
    holdMembers source seen (Draft.limitedMembers limit members) =
      .error (.malformed .nestedTooDeep) := by
  induction members with
  | nil =>
      rw [depthOfMembers] at deep
      omega
  | cons member members inductionHypothesis =>
      obtain ⟨key, value⟩ := member
      rw [List.map_cons, List.mem_cons, not_or] at untagged
      rw [Draft.limitedMembers, holdMembers, Draft.readKey_ok, Outcome.ok_bind,
        if_neg (Ne.symm untagged.1)]
      by_cases first : limit < value.depth
      · rw [Draft.read_limited_of_lt_depth first, Outcome.error_bind]
      · have later := (lt_depthOfMembers_cons.mp deep).resolve_left first
        rw [Draft.limited_eq_ofJson (Nat.le_of_not_lt first), Draft.read_ofJson,
          Outcome.ok_bind, inductionHypothesis untagged.2 later, Outcome.error_bind]

/-- A predicate that is nested too deep is refused: all members but the tag are read. -/
theorem refuses_decode (predicate : Predicate) (source : Source) :
    Refuses (decode source) limit predicate.toJson := by
  intro deep
  rw [toJson_eq, depth, depthOfMembers] at deep
  rw [toJson_eq, Draft.limited, limitDepth]
  by_cases none : limit = 0
  · rw [if_pos none]
    rfl
  · have tagDepth : (Json.string predicate.form.tag).depth = 0 := rfl
    have members : limit - 1 < depthOfMembers predicate.fieldMembers := by omega
    have held := holdMembers_limited_of_lt_depth source (some predicate.form)
      predicate.type_not_mem_fieldMembers members
    have tag : setOnce "type" (Option.none : Option Form)
        (Form.decode source (Draft.limited (limit - 1) (.string predicate.form.tag))) =
          .ok (some predicate.form) := by
      rw [Draft.limited, Form.decode_tag]
      rfl
    rw [if_neg none, decode, Draft.limitedMembers, holdMembers, Draft.readKey_ok,
      Outcome.ok_bind, if_pos rfl, tag, Outcome.ok_bind, held, Outcome.error_bind]

end Predicate

/-! ## Descriptors -/

namespace Descriptor

theorem within_toJson {descriptor : Descriptor}
    (includes : ∀ entry ∈ descriptor.includes, entry.toJson.Within (limit + 3))
    (condition : descriptor.condition.toJson.Within (limit + 4))
    (options : ∀ option ∈ descriptor.options, option.2.Within (limit + 4)) :
    descriptor.toJson.Within (limit + 5) := by
  apply Within.object
  simp only [toMembers, List.forall_mem_append, List.forall_mem_singleton]
  refine ⟨⟨⟨⟨⟨⟨?_, ?_⟩, ?_⟩, ?_⟩, ?_⟩, condition⟩, options⟩
  · exact Slot.forall_mem_toMember .null Within.ofUInt64
  · exact Slot.forall_mem_toMember .null Within.ofUInt64
  · exact Slot.forall_mem_toMember .null within_orderToJson
  · rw [Include.toJsonItems_eq_map]
    exact .array (List.forall_mem_map.mpr includes)
  · exact forall_mem_optionalMember fun texts _ => .strings texts

/-- The compiled fields refuse what is nested too deep, if there is room for an order. -/
theorem refuses_compiledMembers {descriptor : Descriptor} (restorable : descriptor.Restorable)
    (source : Source) :
    ∀ member ∈ descriptor.compiledMembers, ∀ partly,
      Refuses (fun draft => (shape source).set member.1 draft partly) (limit + 4) member.2 := by
  have shallow {members : Json.Members}
      (each : ∀ member ∈ members, member.2.Within (limit + 4)) :
      ∀ member ∈ members, ∀ partly,
        Refuses (fun draft => (shape source).set member.1 draft partly) (limit + 4) member.2 :=
    fun member found _ => refuses_of_depth_le (each member found).depth_le
  simp only [compiledMembers, List.forall_mem_append, List.forall_mem_singleton]
  refine ⟨⟨⟨⟨⟨?_, ?_⟩, ?_⟩, ?_⟩, ?_⟩, ?_⟩
  · exact shallow (Slot.forall_mem_toMember .null Within.ofUInt64)
  · exact shallow (Slot.forall_mem_toMember .null Within.ofUInt64)
  · exact shallow (Slot.forall_mem_toMember .null within_orderToJson)
  · intro partly deep
    have accepts : ∀ item ∈ Include.toJsonItems descriptor.includes,
        ∃ entry, Include.decode (Draft.ofJson item) = .ok entry := by
      rw [Include.toJsonItems_eq_map]
      exact List.forall_mem_map.mpr fun entry member =>
        ⟨entry, Include.decode_toJson (restorable.includes entry member)⟩
    have refused := refuses_list (fun _ item _ => Include.refuses_decode item) accepts deep
    exact Outcome.bind_of_error refused _
  · exact shallow (forall_mem_optionalMember fun texts _ => .strings texts)
  · intro partly deep
    exact Outcome.bind_of_error (descriptor.condition.refuses_decode source deep) _

/-- A restorable descriptor that is nested too deep is refused. -/
theorem refuses_decode {descriptor : Descriptor} (restorable : descriptor.Restorable)
    (source : Source) (limit : Nat) : Refuses (decode source) (limit + 5) descriptor.toJson := by
  rw [toJson, toMembers_eq]
  exact refuses_decodeOpen (fills_compiledMembers restorable source)
    descriptor.keys_compiledMembers_sublist nodup_reservedKeys restorable.options.free
    (refuses_compiledMembers restorable source)

/-- The text of a restorable descriptor whose numbers are integers is decoded as the
descriptor, unless it is nested too deep. -/
theorem decodeText_canonicalText {descriptor : Descriptor} (restorable : descriptor.Restorable)
    (integral : descriptor.toJson.Integral) :
    decodeText (decode .text) descriptor.canonicalText =
      if descriptor.toJson.depth ≤ nestingLimit then .ok descriptor
      else .error (.malformed .nestedTooDeep) := by
  rw [decodeText, canonicalText, decodeTextWithin_compact integral]
  split
  · rename_i shallow
    rw [Draft.limited_eq_ofJson shallow, decode_toJson restorable .text]
  · rename_i deep
    -- The limit of 127 levels leaves room for the five of an order.
    exact refuses_decode restorable .text 122 (Nat.lt_of_not_le deep)

end Descriptor

end QueryCompiler
