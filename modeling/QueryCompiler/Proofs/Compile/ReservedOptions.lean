import Mathlib
import QueryCompiler.Proofs.Compile.Assemble
import QueryCompiler.Proofs.Descriptor.Written
import QueryCompiler.Proofs.Json.Text
import QueryCompiler.Proofs.Json.Within

/-!
# Options never stand in for compiled fields

The options of a base are passed through beside the compiled fields.  A base that is
built in memory may hold options under reserved keys; they are dropped with a
diagnostic each.  So in the object that is written for an assembled descriptor the
reserved keys stand for compiled fields only, and a field that was left out or
cleared stays so.  Whoever reads the text gets the same object.
-/

namespace QueryCompiler

open Json

/-- The object that is written for a specification on a base: compiled fields under
reserved keys, and the options of the base that take none of them. -/
structure Unshadowed (context : Context) (spec : QuerySpec) (base : BaseDescriptor)
    (single : Bool) (members : Members) : Prop where
  nodup : (members.map Prod.fst).Nodup
  split : ∃ compiled, (compiled.map Prod.fst).Sublist reservedKeys ∧
    members = compiled ++ base.options.filter fun option => !isReservedKey option.1
  condition : ∃ value filter additional, members.lookup "where" = some value ∧
    context.translator spec.filter = .ok filter ∧
    context.translator spec.additionalFilter = .ok additional ∧
    Predicate.decode .value (Draft.ofJson value) =
      .ok (.all (base.condition.toList ++ [filter, additional]))
  single_order : single = true → members.lookup "order" = some .null
  single_page : single = true → spec.allPage = false →
    members.lookup "offset" = some .null ∧ members.lookup "limit" = some .null
  all_page : spec.allPage = true →
    members.lookup "offset" = base.offset.map Json.ofUInt64 ∧
      members.lookup "limit" = base.limit.map Json.ofUInt64

private theorem noReservedOption_of_assembledOrder {catalog : Catalog} {spec : QuerySpec}
    {base : Option (List OrderTerm)} {single : Bool} {order : Slot (List OrderTerm)}
    {diagnostics : List Diagnostic}
    (assembled : assembledOrder catalog spec base single = .ok (order, diagnostics)) :
    NoReservedOption diagnostics := by
  unfold assembledOrder at assembled
  split at assembled
  · cases assembled
    exact .nil
  · split at assembled
    · cases assembled
      exact .nil
    · obtain ⟨resolved, orderResolved, last⟩ := Outcome.bind_eq_ok.mp assembled
      cases last
      exact (of_resolveOrder orderResolved).noReservedOption

namespace Assembly

variable {context : Context} {spec : QuerySpec} {base : BaseDescriptor} {single : Bool}

/-- No option of an assembled descriptor takes a reserved key. -/
theorem options_free (assembly : Assembly context spec base single) :
    ∀ option ∈ assembly.descriptor.options, option.1 ∉ reservedKeys := by
  intro option member
  have unreserved : isReservedKey option.1 = false := by
    simpa using (List.mem_filter.mp member).2
  exact isReservedKey_eq_false_iff.mp unreserved

private theorem lookup_toMembers (assembly : Assembly context spec base single) {key : String}
    (reserved : key ∈ reservedKeys) :
    assembly.descriptor.toMembers.lookup key = assembly.descriptor.written key :=
  Descriptor.lookup_toMembers assembly.options_free reserved

private theorem order_of_single (assembly : Assembly context spec base single)
    (isSingle : single = true) : assembly.descriptor.order = .cleared := by
  have assembled := assembly.order_assembled
  unfold assembledOrder at assembled
  rw [if_pos isSingle] at assembled
  exact (congrArg Prod.fst (Except.ok.inj assembled)).symm

private theorem page_of_single (assembly : Assembly context spec base single)
    (isSingle : single = true) (paged : spec.allPage = false) :
    assembly.descriptor.offset = .cleared ∧ assembly.descriptor.limit = .cleared := by
  have notAll : ¬ spec.allPage = true := ne_true_of_eq_false paged
  simp only [descriptor, assembledOffset, assembledLimit, if_neg notAll, if_pos isSingle, and_self]

private theorem page_of_allPage (assembly : Assembly context spec base single)
    (all : spec.allPage = true) :
    assembly.descriptor.offset = .ofOption base.offset ∧
      assembly.descriptor.limit = .ofOption base.limit := by
  simp only [descriptor, assembledOffset, assembledLimit, if_pos all, and_self]

private theorem nodup_keys_toMembers (assembly : Assembly context spec base single)
    (distinct : (base.options.map Prod.fst).Nodup) :
    (assembly.descriptor.toMembers.map Prod.fst).Nodup := by
  -- Keys repeat neither among the options nor between them and the compiled fields.
  have kept : assembly.descriptor.options.Sublist base.options := List.filter_sublist
  exact Descriptor.nodup_keys_toMembers ((kept.map Prod.fst).nodup distinct) assembly.options_free

private theorem unshadowed (assembly : Assembly context spec base single)
    (keeps : context.translator.KeepsWellFormed) (filterWellFormed : spec.filter.WellFormed)
    (additionalWellFormed : spec.additionalFilter.WellFormed)
    (baseCondition : ∀ condition ∈ base.condition, condition.WellFormed)
    (distinct : (base.options.map Prod.fst).Nodup) :
    Unshadowed context spec base single assembly.descriptor.toMembers where
  nodup := assembly.nodup_keys_toMembers distinct
  split := ⟨assembly.descriptor.compiledMembers,
    assembly.descriptor.keys_compiledMembers_sublist, rfl⟩
  condition := by
    have wellFormed := assembly.wellFormed_condition keeps filterWellFormed additionalWellFormed
      baseCondition
    exact ⟨assembly.descriptor.condition.toJson, assembly.filter, assembly.additional,
      assembly.lookup_toMembers (by decide), assembly.filter_translated,
      assembly.additional_translated, Predicate.decode_toJson wellFormed .value⟩
  single_order isSingle := by
    rw [assembly.lookup_toMembers (by decide), Descriptor.written,
      assembly.order_of_single isSingle]
    rfl
  single_page isSingle paged := by
    obtain ⟨offset, limit⟩ := assembly.page_of_single isSingle paged
    rw [assembly.lookup_toMembers (by decide), assembly.lookup_toMembers (by decide),
      Descriptor.written, Descriptor.written, offset, limit]
    exact ⟨rfl, rfl⟩
  all_page all := by
    obtain ⟨offset, limit⟩ := assembly.page_of_allPage all
    rw [assembly.lookup_toMembers (by decide), assembly.lookup_toMembers (by decide),
      Descriptor.written, Descriptor.written, offset, limit]
    exact ⟨Slot.written_ofOption _ _, Slot.written_ofOption _ _⟩

/-- The diagnostics of the order and of the associations stand before those of the
options, and only the latter are about options. -/
theorem diagnostics_reserved (assembly : Assembly context spec base single) :
    ∃ earlier, NoReservedOption earlier ∧
      assembly.diagnostics = earlier ++
        (base.options.filter fun option => isReservedKey option.1).map
          fun option => .reservedOption option.1 :=
  ⟨assembly.orderDiagnostics ++ assembly.includeDiagnostics,
    (noReservedOption_of_assembledOrder assembly.order_assembled).append
      (resolution_of_resolveEntries assembly.expands_resolved).noReservedOption, rfl⟩

/-- What is written for an assembled descriptor names no key twice at any depth, with
reserved options in the base or without. -/
theorem wellFormed_toJson (assembly : Assembly context spec base single)
    (keeps : context.translator.KeepsWellFormed) (wellFormed : spec.WellFormed)
    (baseIncludes : ∀ entry ∈ base.includes, entry.Restorable)
    (baseCondition : ∀ condition ∈ base.condition, condition.WellFormed)
    (baseOptions : (Json.object base.options).WellFormed) :
    assembly.descriptor.toJson.WellFormed := by
  have includes := assembly.restorable_includes keeps wellFormed baseIncludes
  have condition := assembly.wellFormed_condition keeps wellFormed.filter
    wellFormed.additionalFilter baseCondition
  have compiled := Descriptor.wellFormed_compiledMembers includes condition
  cases baseOptions with
  | object distinct each =>
      have options : ∀ option ∈ assembly.descriptor.options, option.2.WellFormed :=
        fun option member => each option (List.mem_of_mem_filter member)
      exact .object (assembly.nodup_keys_toMembers distinct)
        (List.forall_mem_append.mpr ⟨compiled, options⟩)

end Assembly

/-- Options never shadow a compiled field: the text of an assembled descriptor is one
object whose reserved keys stand for compiled fields only, and the diagnostics end
with one for each option that was dropped. -/
theorem assemble_never_shadowed {context : Context} {spec : QuerySpec} {base : BaseDescriptor}
    {single : Bool} {descriptor : Descriptor} {diagnostics : List Diagnostic}
    (keeps : context.translator.KeepsWellFormed) (filterWellFormed : spec.filter.WellFormed)
    (additionalWellFormed : spec.additionalFilter.WellFormed)
    (baseCondition : ∀ condition ∈ base.condition, condition.WellFormed)
    (distinct : (base.options.map Prod.fst).Nodup)
    (assembled : assemble context spec base single = .ok (descriptor, diagnostics)) :
    descriptor.canonicalText.toList =
        '{' :: ([','].intercalate (descriptor.toMembers.map memberText) ++ ['}']) ∧
      Unshadowed context spec base single descriptor.toMembers ∧
      ∃ earlier, NoReservedOption earlier ∧
        diagnostics = earlier ++ (base.options.filter fun option => isReservedKey option.1).map
          fun option => .reservedOption option.1 := by
  obtain ⟨assembly, rfl, rfl⟩ := assemble_eq_ok_iff.mp assembled
  have unshadowed := assembly.unshadowed keeps filterWellFormed additionalWellFormed
    baseCondition distinct
  exact ⟨toList_compact_object _, unshadowed, assembly.diagnostics_reserved⟩

/-- Options under `where` and `order` are dropped, whatever else the base holds. -/
theorem assemble_never_shadowed_where :
    let context : Context := ⟨fun _ => .ok none, Filter.translate⟩
    let base : BaseDescriptor :=
      { BaseDescriptor.empty with
        condition := some (.compare "owner" .eq (.string "me"))
        options := [("where", .null), ("trace", .bool true), ("order", .array [])] }
    let descriptor : Descriptor := ⟨.cleared, .cleared, .cleared, [], none,
      .all [.compare "owner" .eq (.string "me"), .always, .always], [("trace", .bool true)]⟩
    let diagnostics : List Diagnostic := [.reservedOption "where", .reservedOption "order"]
    assemble context .default base true = .ok (descriptor, diagnostics) ∧
      descriptor.canonicalText.toList =
        '{' :: ([','].intercalate (descriptor.toMembers.map memberText) ++ ['}']) ∧
      Unshadowed context .default base true descriptor.toMembers ∧
      ∃ earlier, NoReservedOption earlier ∧
        diagnostics = earlier ++ (base.options.filter fun option => isReservedKey option.1).map
          fun option => .reservedOption option.1 := by
  intro context base descriptor diagnostics
  have keeps : context.translator.KeepsWellFormed := Filter.keepsWellFormed_translate
  have emptyFilter : QuerySpec.emptyFilter.WellFormed :=
    .object List.nodup_nil (List.forall_mem_nil _)
  have baseCondition : ∀ condition ∈ base.condition, condition.WellFormed :=
    fun _ member => Option.some.inj member ▸ .compare "owner" .eq (.string "me")
  have distinct : (base.options.map Prod.fst).Nodup := by decide
  have assembled : assemble context .default base true = .ok (descriptor, diagnostics) := by cbv
  exact ⟨assembled,
    assemble_never_shadowed keeps emptyFilter emptyFilter baseCondition distinct assembled⟩

/-- Reading the text of an assembled descriptor gives the members that were written for it,
so none of them is shadowed for the reader either.  Only texts without loss are considered:
numbers are integers, and the nesting keeps the limit. -/
theorem parse_canonicalText_of_assemble {context : Context} {spec : QuerySpec}
    {base : BaseDescriptor} {single : Bool} {descriptor : Descriptor}
    {diagnostics : List Diagnostic} (keeps : context.translator.KeepsWellFormed)
    (wellFormed : spec.WellFormed) (baseIncludes : ∀ entry ∈ base.includes, entry.Restorable)
    (baseCondition : ∀ condition ∈ base.condition, condition.WellFormed)
    (baseOptions : (Json.object base.options).WellFormed)
    (assembled : assemble context spec base single = .ok (descriptor, diagnostics))
    (within : descriptor.toJson.Within nestingLimit) :
    parse descriptor.canonicalText = .ok (.object descriptor.toMembers) ∧
      Unshadowed context spec base single descriptor.toMembers := by
  obtain ⟨assembly, rfl, rfl⟩ := assemble_eq_ok_iff.mp assembled
  have written := assembly.wellFormed_toJson keeps wellFormed baseIncludes baseCondition baseOptions
  cases baseOptions with
  | object distinct _ =>
      exact ⟨parse_compact within.integral written within.depth_le,
        assembly.unshadowed keeps wellFormed.filter wellFormed.additionalFilter baseCondition
          distinct⟩

end QueryCompiler
