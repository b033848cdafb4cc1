import Mathlib
import QueryCompiler.Proofs.Compile.Assemble
import QueryCompiler.Proofs.Query.Normal

/-!
# What becomes of sort entries

Each token of an order becomes one term, or one diagnostic says that it was skipped.  The
entries of a raw list come to be tokens only if they are texts and not empty; the others
are passed over before the order is resolved, and no diagnostic tells of them.
-/

namespace QueryCompiler

open Json

/-- Whether a diagnostic tells that a sort token was skipped. -/
def Diagnostic.isInvalidSortToken : Diagnostic → Bool
  | .invalidSortToken _ _ => true
  | _ => false

private theorem ResolvedToken.length_add_countP {catalog : Catalog} {token : String}
    {terms : List OrderTerm} {diagnostics : List Diagnostic}
    (resolved : ResolvedToken catalog token terms diagnostics) :
    terms.length + diagnostics.countP Diagnostic.isInvalidSortToken = 1 := by
  cases resolved with
  | invalid => rfl
  | plain => rfl
  | qualified => rfl
  | unresolved => rfl

/-- Tokens are as many as the terms and the skipped tokens together. -/
theorem ResolvedOrder.length_add_countP {catalog : Catalog} {tokens : List String}
    {terms : List OrderTerm} {diagnostics : List Diagnostic}
    (resolved : ResolvedOrder catalog tokens terms diagnostics) :
    terms.length + diagnostics.countP Diagnostic.isInvalidSortToken = tokens.length := by
  induction resolved with
  | nil => rfl
  | cons first rest inductionHypothesis =>
      have one := first.length_add_countP
      rw [List.length_append, List.countP_append, List.length_cons]
      omega

/-! ## Raw entries -/

private theorem orderBy_ofJson {raw : Json} {items : List Json}
    (listed : raw.member? "orderBy" = some (.array items)) :
    (QuerySpec.ofJson raw).orderBy = items.filterMap nonEmptyString? := by
  cases raw with
  | object members =>
      have found : members.lookup "orderBy" = some (.array items) := listed
      rw [QuerySpec.ofJson, found, stringList]
  | _ => cases listed

/-- All entries come to be tokens exactly if all of them are texts and not empty. -/
theorem length_filterMap_nonEmptyString?_eq_iff (items : List Json) :
    (items.filterMap nonEmptyString?).length = items.length ↔
      ∀ item ∈ items, ∃ text, item = .string text ∧ text ≠ "" := by
  rw [List.filterMap_length_eq_length]
  refine forall₂_congr fun item _ => ?_
  rw [Option.isSome_iff_exists]
  exact exists_congr fun text => nonEmptyString?_eq_some_iff

/-! ## Assembled orders -/

/-- The order of an assembly that neither a single row nor the base settles. -/
theorem Assembly.resolvedOrder {context : Context} {spec : QuerySpec}
    (assembly : Assembly context spec .empty false) :
    ∃ terms, assembly.order = .set terms ∧
      ResolvedOrder context.catalog spec.orderBy terms assembly.orderDiagnostics := by
  obtain ⟨⟨terms, diagnostics⟩, resolved, last⟩ := Outcome.bind_eq_ok.mp assembly.order_assembled
  obtain ⟨order, recorded⟩ := Prod.mk.inj (Except.ok.inj last)
  exact ⟨terms, order.symm, recorded ▸ of_resolveOrder resolved⟩

/-- Without associations only the order has diagnostics. -/
theorem Assembly.diagnostics_eq {context : Context} {spec : QuerySpec}
    (assembly : Assembly context spec .empty false) (alone : spec.expands = []) :
    assembly.diagnostics = assembly.orderDiagnostics := by
  have resolved : resolveEntries context [] =
      .ok (assembly.includes, assembly.includeDiagnostics) := alone ▸ assembly.expands_resolved
  have nothing : assembly.includeDiagnostics = [] :=
    (congrArg Prod.snd (Except.ok.inj resolved)).symm
  simp [Assembly.diagnostics, nothing, BaseDescriptor.empty]

/-- Each entry of a raw order that is a text and not empty gives one term, or one
diagnostic tells that it was skipped.  Entries of another kind leave no trace. -/
theorem sort_entries_recorded_iff_texts {context : Context} {raw : Json} {items : List Json}
    {descriptor : Descriptor} {diagnostics : List Diagnostic}
    (listed : raw.member? "orderBy" = some (.array items))
    (assembled : assemble context (.ofJson raw) .empty false = .ok (descriptor, diagnostics)) :
    ∃ terms recorded, descriptor.order = .set terms ∧ recorded <+: diagnostics ∧
      ResolvedOrder context.catalog (items.filterMap nonEmptyString?) terms recorded ∧
      terms.length + recorded.countP Diagnostic.isInvalidSortToken =
        (items.filterMap nonEmptyString?).length ∧
      ((QuerySpec.ofJson raw).expands = [] →
        (terms.length + diagnostics.countP Diagnostic.isInvalidSortToken = items.length ↔
          ∀ item ∈ items, ∃ text, item = .string text ∧ text ≠ "")) := by
  obtain ⟨assembly, rfl, rfl⟩ := assemble_eq_ok_iff.mp assembled
  obtain ⟨terms, ordered, resolved⟩ := assembly.resolvedOrder
  rw [orderBy_ofJson listed] at resolved
  have counted := resolved.length_add_countP
  have first : assembly.orderDiagnostics <+: assembly.diagnostics := by
    rw [Assembly.diagnostics, List.append_assoc]
    exact List.prefix_append _ _
  refine ⟨terms, assembly.orderDiagnostics, ordered, first, resolved, counted, ?_⟩
  intro alone
  rw [assembly.diagnostics_eq alone, counted]
  exact length_filterMap_nonEmptyString?_eq_iff items

/-- A column, a token without a name and a number. -/
theorem sort_entries_recorded_of_number :
    let context : Context := ⟨fun _ => .ok none, Filter.translate⟩
    let items : List Json := [.string "a", .string ".", ofUInt64 5]
    let raw : Json := .object [("orderBy", .array items)]
    let descriptor : Descriptor :=
      ⟨.set 0, .set 20, .set [.plain "a" .ascending], [], none, .all [.always, .always], []⟩
    let diagnostics : List Diagnostic :=
      [.invalidSortToken "." (SortTokenError.missingName ['.'] 0).message]
    raw.member? "orderBy" = some (.array items) ∧
      assemble context (.ofJson raw) .empty false = .ok (descriptor, diagnostics) ∧
      ∃ terms recorded, descriptor.order = .set terms ∧ recorded <+: diagnostics ∧
        ResolvedOrder context.catalog ["a", "."] terms recorded ∧
        terms.length + recorded.countP Diagnostic.isInvalidSortToken = 2 ∧
        terms.length + diagnostics.countP Diagnostic.isInvalidSortToken ≠ items.length := by
  intro context items raw descriptor diagnostics
  have listed : raw.member? "orderBy" = some (.array items) := by rfl
  have assembled : assemble context (.ofJson raw) .empty false =
      .ok (descriptor, diagnostics) := by cbv
  obtain ⟨terms, recorded, ordered, first, resolved, counted, complete⟩ :=
    sort_entries_recorded_iff_texts listed assembled
  refine ⟨listed, assembled, terms, recorded, ordered, first, resolved, counted, ?_⟩
  intro all
  obtain ⟨text, same, _⟩ := (complete rfl).mp all (ofUInt64 5) (by simp [items])
  cases same

/-- An empty entry is passed over without a diagnostic, though the same token has one
when an order is resolved. -/
theorem empty_sort_entry_not_recorded :
    let context : Context := ⟨fun _ => .ok none, Filter.translate⟩
    let raw : Json := .object [("orderBy", .array [.string ""])]
    (∃ descriptor, assemble context (.ofJson raw) .empty false = .ok (descriptor, []) ∧
        descriptor.order = .set []) ∧
      resolveOrder context.catalog [""] =
        .ok ([], [.invalidSortToken "" "Empty sort token"]) := by
  intro context raw
  let descriptor : Descriptor :=
    ⟨.set 0, .set 20, .set [], [], none, .all [.always, .always], []⟩
  have assembled : assemble context (.ofJson raw) .empty false = .ok (descriptor, []) := by cbv
  have recorded : resolveOrder context.catalog [""] =
      .ok ([], [.invalidSortToken "" "Empty sort token"]) := by cbv
  exact ⟨⟨descriptor, assembled, rfl⟩, recorded⟩

end QueryCompiler
