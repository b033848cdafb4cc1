import Mathlib
import QueryCompiler.Proofs.Compile.ReadBack

/-!
# Stacked compilation

In a stack every stage is compiled on the descriptor of the stage before it, which
is written and read as a base in between.  No restriction gets lost on the way:
the last descriptor holds of a record when the base does and every stage admits the
record (`compileStack_keeps_restrictions`).
-/

namespace QueryCompiler

open Json

/-- One stage of a stack: raw input, compiled for one row only or not. -/
structure Stage where
  raw : Json
  single : Bool

/-- The specification of a stage. -/
def Stage.spec (stage : Stage) : QuerySpec :=
  .ofJson stage.raw

/-- Both filters of a stage admit a record. -/
def Stage.Admits (translator : FilterTranslator) (stage : Stage) (record : Record) : Prop :=
  QueryCompiler.Admits translator stage.spec.filter record ∧
    QueryCompiler.Admits translator stage.spec.additionalFilter record

/-- Why a stack gave no descriptor: a stage was not compiled, or a descriptor was not
read as a base. -/
inductive StackError where
  | compile (error : CompileError)
  | read (error : ReadError)

/-- Compile a stage on a base, and every further one on the descriptor of the stage
before it. -/
def compileStack (context : Context) (base : BaseDescriptor) (stage : Stage) :
    List Stage → Except StackError Descriptor
  | [] => do
      let (descriptor, _) ←
        (assemble context stage.spec base stage.single).mapError .compile
      return descriptor
  | next :: stages => do
      let (descriptor, _) ←
        (assemble context stage.spec base stage.single).mapError .compile
      let nextBase ←
        (BaseDescriptor.decode .value (Draft.ofJson descriptor.toJson)).mapError .read
      compileStack context nextBase next stages

/-! ## What stages make of a base -/

/-- What a descriptor has of the base and of the stages that it was compiled from. -/
structure Stacked (context : Context) (base : BaseDescriptor) (stages : List Stage)
    (final : Descriptor) : Prop where
  condition : ∀ record, final.condition.holds record = true ↔
    (∀ condition ∈ base.condition, condition.holds record = true) ∧
      ∀ stage ∈ stages, stage.Admits context.translator record
  includes : ∃ resolved,
    stages.mapM (fun stage => resolveEntries context stage.spec.expands) = .ok resolved ∧
      final.includes = base.includes ++ resolved.flatMap Prod.fst
  attributes : final.attributes.getD [] =
    base.attributes ++ stages.flatMap fun stage => stage.spec.attributes
  attributes_eq_none_iff : final.attributes = none ↔
    base.attributes ++ (stages.flatMap fun stage => stage.spec.attributes) = []
  options : final.options = base.options

private theorem getD_nonEmptyList? {α : Type} (items : List α) :
    (nonEmptyList? items).getD [] = items := by
  cases items <;> rfl

theorem nonEmptyList?_eq_none_iff {α : Type} {items : List α} :
    nonEmptyList? items = none ↔ items = [] := by
  cases items <;> simp [nonEmptyList?]

/-- One stage. -/
theorem Assembly.stacked {context : Context} {stage : Stage} {base : BaseDescriptor}
    (assembly : Assembly context stage.spec base stage.single)
    (restorable : base.Restorable) : Stacked context base [stage] assembly.descriptor where
  condition record := by
    rw [assembly.holds_condition_iff, List.forall_mem_singleton]
    exact Iff.rfl
  includes := by
    refine ⟨[(assembly.includes, assembly.includeDiagnostics)], ?_, ?_⟩
    · rw [List.mapM_cons, assembly.expands_resolved, Outcome.ok_bind]
      rfl
    · rw [List.flatMap_singleton]
      rfl
  attributes := by
    rw [List.flatMap_singleton]
    exact getD_nonEmptyList? _
  attributes_eq_none_iff := by
    rw [List.flatMap_singleton]
    exact nonEmptyList?_eq_none_iff
  options := assembly.options_eq restorable.options

/-- A stage before other stages, which start from the descriptor of the stage. -/
theorem Stacked.cons {context : Context} {base : BaseDescriptor} {stage : Stage}
    {stages : List Stage} {middle final : Descriptor}
    (first : Stacked context base [stage] middle)
    (rest : Stacked context middle.asBase stages final) :
    Stacked context base (stage :: stages) final where
  condition record := by
    have middleHolds := first.condition record
    rw [List.forall_mem_singleton] at middleHolds
    have given : (∀ condition ∈ middle.asBase.condition, condition.holds record = true) ↔
        middle.condition.holds record = true :=
      ⟨fun all => all middle.condition rfl, fun holds _ member => Option.some.inj member ▸ holds⟩
    rw [rest.condition, given, middleHolds, List.forall_mem_cons, and_assoc]
  includes := by
    obtain ⟨firstResolved, firstMapped, firstIncludes⟩ := first.includes
    obtain ⟨restResolved, restMapped, restIncludes⟩ := rest.includes
    refine ⟨firstResolved ++ restResolved, ?_, ?_⟩
    · rw [← List.singleton_append, List.mapM_append, firstMapped, Outcome.ok_bind, restMapped]
      rfl
    · rw [restIncludes, List.flatMap_append, ← List.append_assoc, ← firstIncludes]
      rfl
  attributes := by
    have firstAttributes := first.attributes
    rw [List.flatMap_singleton] at firstAttributes
    rw [rest.attributes, List.flatMap_cons, ← List.append_assoc, ← firstAttributes]
    rfl
  attributes_eq_none_iff := by
    have firstAttributes := first.attributes
    rw [List.flatMap_singleton] at firstAttributes
    rw [rest.attributes_eq_none_iff, List.flatMap_cons, ← List.append_assoc, ← firstAttributes]
    exact Iff.rfl
  options := rest.options.trans first.options

/-! ## Runs -/

/-- A stage that is compiled on a restorable base leaves a descriptor that is read as
the next base. -/
theorem next_base_of_assemble {context : Context} {stage : Stage} {base : BaseDescriptor}
    {descriptor : Descriptor} {diagnostics : List Diagnostic}
    (keeps : context.translator.KeepsWellFormed) (wellFormed : stage.raw.WellFormed)
    (restorable : base.Restorable)
    (assembled : assemble context stage.spec base stage.single = .ok (descriptor, diagnostics)) :
    Stacked context base [stage] descriptor ∧ descriptor.asBase.Restorable ∧
      BaseDescriptor.decode .value (Draft.ofJson descriptor.toJson) = .ok descriptor.asBase := by
  obtain ⟨assembly, rfl, _⟩ := assemble_eq_ok_iff.mp assembled
  have again := assembly.restorable keeps (QuerySpec.wellFormed_ofJson wellFormed) restorable
  exact ⟨assembly.stacked restorable, again.asBase, BaseDescriptor.decode_descriptor again .value⟩

/-- A stack that starts from a restorable base never fails to read a descriptor, and it
gives what its stages make of the base. -/
theorem compileStack_cases {context : Context} (keeps : context.translator.KeepsWellFormed) :
    ∀ (stages : List Stage) (base : BaseDescriptor) (stage : Stage), base.Restorable →
      (∀ each ∈ stage :: stages, each.raw.WellFormed) →
      (∃ error, compileStack context base stage stages = .error (.compile error)) ∨
        ∃ final, compileStack context base stage stages = .ok final ∧
          Stacked context base (stage :: stages) final := by
  intro stages
  -- Every stage has a base of its own; the induction keeps that it is restorable.
  induction stages with
  | nil =>
      intro base stage restorable wellFormed
      rw [compileStack]
      cases assembled : assemble context stage.spec base stage.single with
      | error error => exact .inl ⟨error, rfl⟩
      | ok result =>
          have stageWellFormed := wellFormed stage List.mem_cons_self
          have next := next_base_of_assemble keeps stageWellFormed restorable assembled
          exact .inr ⟨result.1, rfl, next.1⟩
  | cons next stages inductionHypothesis =>
      intro base stage restorable wellFormed
      obtain ⟨stageWellFormed, restWellFormed⟩ := List.forall_mem_cons.mp wellFormed
      rw [compileStack]
      cases assembled : assemble context stage.spec base stage.single with
      | error error => exact .inl ⟨error, rfl⟩
      | ok result =>
          obtain ⟨stacked, nextRestorable, read⟩ :=
            next_base_of_assemble keeps stageWellFormed restorable assembled
          rw [Outcome.mapError_ok, Outcome.ok_bind]
          simp only [read, Outcome.mapError_ok, Outcome.ok_bind]
          rcases inductionHypothesis result.1.asBase next nextRestorable restWellFormed with
            failed | ⟨final, compiled, rest⟩
          · exact .inl failed
          · exact .inr ⟨final, compiled, stacked.cons rest⟩

/-- Stacked compilation loses no restriction: every descriptor on the way is read as the
next base, and the last one is restricted by the base and by both filters of every
stage, with all includes, attributes and options in order. -/
theorem compileStack_keeps_restrictions {context : Context} {base : BaseDescriptor}
    {stage : Stage} {stages : List Stage} (keeps : context.translator.KeepsWellFormed)
    (given : base.Given) (wellFormed : ∀ each ∈ stage :: stages, each.raw.WellFormed) :
    (∀ error, compileStack context base stage stages ≠ .error (.read error)) ∧
      ∀ final, compileStack context base stage stages = .ok final →
        Stacked context base (stage :: stages) final := by
  rcases compileStack_cases keeps stages base stage given.restorable wellFormed with
    ⟨error, failed⟩ | ⟨final, compiled, stacked⟩
  · rw [failed]
    refine ⟨fun _ same => ?_, fun _ same => ?_⟩
    · cases same
    · cases same
  · rw [compiled]
    refine ⟨fun _ same => ?_, fun _ same => ?_⟩
    · cases same
    · cases same
      exact stacked

/-- A caller that asks for the rows of another owner is still held to its own ones. -/
theorem compileStack_keeps_owner :
    let context : Context := ⟨fun _ => .ok none, Filter.translate⟩
    let base : BaseDescriptor :=
      { BaseDescriptor.empty with
        condition := some (.compare "owner" .eq (.string "me"))
        options := [("trace", .bool true)] }
    let tenant : Stage := ⟨.object [("filter", .object [("tenant", .string "a")]),
      ("attributes", .array [.string "id"])], false⟩
    let caller : Stage := ⟨.object [("additionalFilter", .object [("owner", .string "you")]),
      ("expands", .array [.string "author"])], true⟩
    let inner : Predicate := .all [.compare "owner" .eq (.string "me"),
      .compare "tenant" .eq (.string "a"), .always]
    let final : Descriptor := ⟨.cleared, .cleared, .cleared, [.name "author"], some ["id"],
      .all [inner, .always, .compare "owner" .eq (.string "you")], [("trace", .bool true)]⟩
    compileStack context base tenant [caller] = .ok final ∧
      (∀ error, compileStack context base tenant [caller] ≠ .error (.read error)) ∧
      Stacked context base [tenant, caller] final := by
  intro context base tenant caller inner final
  have read : BaseDescriptor.decode .value (Draft.ofJson base.toJson) = .ok base := rfl
  have wellFormed : ∀ each ∈ [tenant, caller], each.raw.WellFormed :=
    List.forall_mem_cons.mpr ⟨wellFormed_distinct tenant.raw,
      List.forall_mem_singleton.mpr (wellFormed_distinct caller.raw)⟩
  have compiled : compileStack context base tenant [caller] = .ok final := by cbv
  have keeps : context.translator.KeepsWellFormed := Filter.keepsWellFormed_translate
  obtain ⟨noReadError, stacked⟩ :=
    compileStack_keeps_restrictions keeps (.decoded read) wellFormed
  exact ⟨compiled, noReadError, stacked final compiled⟩

end QueryCompiler
