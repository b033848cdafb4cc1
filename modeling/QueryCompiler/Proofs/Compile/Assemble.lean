import QueryCompiler.Compile.Assemble
import QueryCompiler.Predicate.Holds
import QueryCompiler.Proofs.Compile.Resolution
import QueryCompiler.Proofs.Descriptor.RoundTrip

/-!
# What an assembly consists of

`Assembly` collects what the steps of a successful assembly gave, and
`assemble_eq_ok_iff` says that its descriptor and its diagnostics are the result.
Later statements about assembled descriptors start from it and do not follow the
steps again.

The last sections say when an assembled descriptor holds of a record, and that it
is read back from what is written for it.
-/

namespace QueryCompiler

open Json

/-! ## Parts -/

/-- What the steps of a successful assembly gave. -/
structure Assembly (context : Context) (spec : QuerySpec) (base : BaseDescriptor)
    (single : Bool) where
  order : Slot (List OrderTerm)
  orderDiagnostics : List Diagnostic
  includes : List Include
  includeDiagnostics : List Diagnostic
  filter : Predicate
  additional : Predicate
  order_assembled : assembledOrder context.catalog spec base.order single =
    .ok (order, orderDiagnostics)
  expands_resolved : resolveEntries context spec.expands = .ok (includes, includeDiagnostics)
  filter_translated : context.translator spec.filter = .ok filter
  additional_translated : context.translator spec.additionalFilter = .ok additional

namespace Assembly

variable {context : Context} {spec : QuerySpec} {base : BaseDescriptor} {single : Bool}

/-- The descriptor of an assembly. -/
def descriptor (assembly : Assembly context spec base single) : Descriptor where
  offset := assembledOffset spec base.offset single
  limit := assembledLimit spec base.limit single
  order := assembly.order
  includes := base.includes ++ assembly.includes
  attributes := nonEmptyList? (base.attributes ++ spec.attributes)
  condition := .all (base.condition.toList ++ [assembly.filter, assembly.additional])
  options := base.options.filter fun option => !isReservedKey option.1

/-- The diagnostics of an assembly; those of the options come last. -/
def diagnostics (assembly : Assembly context spec base single) : List Diagnostic :=
  assembly.orderDiagnostics ++ assembly.includeDiagnostics ++
    (base.options.filter fun option => isReservedKey option.1).map
      fun option => .reservedOption option.1

end Assembly

theorem compose_eq_ok_iff {translator : FilterTranslator} {base : Option Predicate}
    {filter additional : Json} {condition : Predicate} :
    Filter.compose translator base filter additional = .ok condition ↔
      ∃ filterCondition additionalCondition,
        translator filter = .ok filterCondition ∧
          translator additional = .ok additionalCondition ∧
          condition = .all (base.toList ++ [filterCondition, additionalCondition]) := by
  constructor
  · intro composed
    obtain ⟨filterCondition, filterTranslated, composed⟩ := Outcome.bind_eq_ok.mp composed
    obtain ⟨additionalCondition, additionalTranslated, last⟩ := Outcome.bind_eq_ok.mp composed
    cases last
    exact ⟨filterCondition, additionalCondition, filterTranslated, additionalTranslated, rfl⟩
  · rintro ⟨filterCondition, additionalCondition, filterTranslated, additionalTranslated, rfl⟩
    rw [Filter.compose, filterTranslated, Outcome.ok_bind, additionalTranslated]
    rfl

/-- An assembly succeeds with the descriptor and the diagnostics of its parts. -/
theorem assemble_eq_ok_iff {context : Context} {spec : QuerySpec} {base : BaseDescriptor}
    {single : Bool} {descriptor : Descriptor} {diagnostics : List Diagnostic} :
    assemble context spec base single = .ok (descriptor, diagnostics) ↔
      ∃ assembly : Assembly context spec base single,
        descriptor = assembly.descriptor ∧ diagnostics = assembly.diagnostics := by
  constructor
  · intro assembled
    unfold assemble at assembled
    obtain ⟨⟨order, orderDiagnostics⟩, orderAssembled, assembled⟩ :=
      Outcome.bind_eq_ok.mp assembled
    obtain ⟨⟨includes, includeDiagnostics⟩, expandsResolved, assembled⟩ :=
      Outcome.bind_eq_ok.mp assembled
    obtain ⟨condition, composed, last⟩ := Outcome.bind_eq_ok.mp assembled
    obtain ⟨filter, additional, filterTranslated, additionalTranslated, rfl⟩ :=
      compose_eq_ok_iff.mp (Outcome.mapError_eq_ok.mp composed)
    rw [List.partition_eq_filter_filter] at last
    cases last
    exact ⟨⟨order, orderDiagnostics, includes, includeDiagnostics, filter, additional,
      Outcome.mapError_eq_ok.mp orderAssembled, expandsResolved, filterTranslated,
      additionalTranslated⟩, rfl, rfl⟩
  · rintro ⟨assembly, rfl, rfl⟩
    have composed : Filter.compose context.translator base.condition spec.filter
        spec.additionalFilter =
          .ok (.all (base.condition.toList ++ [assembly.filter, assembly.additional])) :=
      compose_eq_ok_iff.mpr ⟨assembly.filter, assembly.additional,
        assembly.filter_translated, assembly.additional_translated, rfl⟩
    unfold assemble
    rw [assembly.order_assembled, Outcome.mapError_ok, Outcome.ok_bind]
    simp only [assembly.expands_resolved, Outcome.ok_bind]
    rw [composed, Outcome.mapError_ok, Outcome.ok_bind, List.partition_eq_filter_filter]
    rfl

theorem compile_eq_ok_iff {context : Context} {spec : QuerySpec} {descriptor : Descriptor} :
    compile context spec = .ok descriptor ↔
      ∃ assembly : Assembly context spec .empty false, descriptor = assembly.descriptor := by
  constructor
  · intro compiled
    obtain ⟨⟨whole, diagnostics⟩, assembled, rfl⟩ := Outcome.map_eq_ok.mp compiled
    obtain ⟨assembly, same, _⟩ := assemble_eq_ok_iff.mp assembled
    exact ⟨assembly, same⟩
  · rintro ⟨assembly, rfl⟩
    exact Outcome.map_eq_ok.mpr ⟨_, assemble_eq_ok_iff.mpr ⟨assembly, rfl, rfl⟩, rfl⟩

theorem translate_emptyFilter : Filter.translate QuerySpec.emptyFilter = .ok .always := by
  rw [QuerySpec.emptyFilter, Filter.translate, Filter.translateMembers]
  rfl

/-! ## Meaning -/

/-- An expression is translated to a predicate that holds of the record. -/
def Admits (translator : FilterTranslator) (expression : Json) (record : Record) : Prop :=
  ∃ predicate, translator expression = .ok predicate ∧ predicate.holds record = true

theorem admits_iff {translator : FilterTranslator} {expression : Json} {predicate : Predicate}
    (translated : translator expression = .ok predicate) (record : Record) :
    Admits translator expression record ↔ predicate.holds record = true := by
  constructor
  · rintro ⟨other, otherTranslated, holds⟩
    rw [translated] at otherTranslated
    cases otherTranslated
    exact holds
  · exact fun holds => ⟨predicate, translated, holds⟩

namespace Assembly

variable {context : Context} {spec : QuerySpec} {base : BaseDescriptor} {single : Bool}

/-- The compiled condition holds when the condition of the base does and both
filters admit the record. -/
theorem holds_condition_iff (assembly : Assembly context spec base single) (record : Record) :
    assembly.descriptor.condition.holds record = true ↔
      (∀ condition ∈ base.condition, condition.holds record = true) ∧
        Admits context.translator spec.filter record ∧
        Admits context.translator spec.additionalFilter record := by
  rw [admits_iff assembly.filter_translated, admits_iff assembly.additional_translated,
    descriptor, Predicate.holds, allHold_eq_all, List.all_append, Bool.and_eq_true,
    List.all_eq_true]
  simp [Option.mem_toList]

/-! ## Reading back -/

theorem wellFormed_condition (assembly : Assembly context spec base single)
    (keeps : context.translator.KeepsWellFormed) (filterWellFormed : spec.filter.WellFormed)
    (additionalWellFormed : spec.additionalFilter.WellFormed)
    (baseCondition : ∀ condition ∈ base.condition, condition.WellFormed) :
    assembly.descriptor.condition.WellFormed := by
  have filter := keeps spec.filter assembly.filter filterWellFormed assembly.filter_translated
  have additional := keeps spec.additionalFilter assembly.additional additionalWellFormed
    assembly.additional_translated
  refine .all fun operand member => ?_
  rcases List.mem_append.mp member with member | member
  · exact baseCondition operand (Option.mem_toList.mp member)
  · have inserted : ∀ operand ∈ [assembly.filter, assembly.additional], operand.WellFormed :=
      List.forall_mem_cons.mpr ⟨filter, List.forall_mem_singleton.mpr additional⟩
    exact inserted operand member

/-- Options that take no reserved key are passed through. -/
theorem options_eq (assembly : Assembly context spec base single)
    (beside : Beside reservedKeys base.options) : assembly.descriptor.options = base.options := by
  refine List.filter_eq_self.mpr fun option member => ?_
  have unreserved := isReservedKey_eq_false_iff.mpr (beside.free option member)
  rw [unreserved]
  rfl

theorem restorable_includes (assembly : Assembly context spec base single)
    (keeps : context.translator.KeepsWellFormed) (wellFormed : spec.WellFormed)
    (baseIncludes : ∀ entry ∈ base.includes, entry.Restorable) :
    ∀ entry ∈ assembly.descriptor.includes, entry.Restorable :=
  List.forall_mem_append.mpr ⟨baseIncludes,
    (resolution_of_resolveEntries assembly.expands_resolved).restorable keeps wellFormed.expands⟩

/-- What is assembled on a base that is read back is read back itself. -/
theorem restorable (assembly : Assembly context spec base single)
    (keeps : context.translator.KeepsWellFormed) (wellFormed : spec.WellFormed)
    (baseRestorable : base.Restorable) : assembly.descriptor.Restorable where
  includes := assembly.restorable_includes keeps wellFormed baseRestorable.includes
  condition := assembly.wellFormed_condition keeps wellFormed.filter wellFormed.additionalFilter
    baseRestorable.condition
  options := by
    rw [assembly.options_eq baseRestorable.options]
    exact baseRestorable.options

end Assembly

end QueryCompiler
