import Mathlib.Data.List.Forall2
import QueryCompiler.Proofs.Compile.Failure
import QueryCompiler.Proofs.Compile.LiveEntries

/-!
# Failures of live entries

Entries fail to resolve exactly if a live one of them fails, and the failure is the one of
the first such entry in document order.  What a dropped entry asks for is never consulted:
it can be replaced without a change to what the entries resolve to, or to their failure.
-/

namespace QueryCompiler

open Outcome

/-! ## The failure of one entry -/

/-- The failure of what an entry itself consults: its target, and if that is known its
condition and then its order. -/
def ownFailure? (context : Context) : ExpandEntry → Option CompileError
  | .request request _ =>
      match request.name with
      | none => none
      | some name =>
          let keys := request.modelName.toList ++ [name]
          ((targetFailure? context.catalog keys).map .configuration).or <|
            if context.catalog.knows keys then
              ((conditionFailure? context.translator request.condition).map .filter).or <|
                (tokensFailure? context.catalog request.order).map .configuration
            else
              none
  | _ => none

/-- An entry fails: a lookup of its target does, or its target is known and its condition,
its order or the entries within it fail. -/
inductive EntryFails (context : Context) : ExpandEntry → Prop
  | model {request : ExpandRequest} {nested : List ExpandEntry} {name model : String}
      {failure : LookupFailure} (named : request.name = some name)
      (asked : request.modelName = some model) (failed : context.catalog model = .error failure) :
      EntryFails context (.request request nested)
  | name {request : ExpandRequest} {nested : List ExpandEntry} {name : String}
      {failure : LookupFailure} (named : request.name = some name)
      (unknown : ∀ model ∈ request.modelName, context.catalog model = .ok none)
      (failed : context.catalog name = .error failure) :
      EntryFails context (.request request nested)
  | condition {request : ExpandRequest} {nested : List ExpandEntry} {name key : String}
      {target : RelationHandle} {expression : Json} {error : FilterError}
      (named : request.name = some name) (found : TargetOf context.catalog request name key target)
      (asked : request.condition = some expression)
      (failed : context.translator expression = .error error) :
      EntryFails context (.request request nested)
  | order {request : ExpandRequest} {nested : List ExpandEntry} {name key : String}
      {target : RelationHandle} {token relation column : String} {direction : Direction}
      {failure : LookupFailure}
      (named : request.name = some name) (found : TargetOf context.catalog request name key target)
      (asked : token ∈ request.order)
      (parsed : SortToken.parse token = .ok ⟨direction, some relation, column⟩)
      (failed : context.catalog relation = .error failure) :
      EntryFails context (.request request nested)
  | nested {request : ExpandRequest} {nested : List ExpandEntry} {name key : String}
      {target : RelationHandle} {error : CompileError}
      (named : request.name = some name) (found : TargetOf context.catalog request name key target)
      (failed : resolveEntries context nested = .error error) :
      EntryFails context (.request request nested)

/-! ## Targets -/

section

variable {catalog : Catalog} {request : ExpandRequest} {name : String}

theorem targetFailure?_eq_some_iff {failure : LookupFailure} :
    targetFailure? catalog (request.modelName.toList ++ [name]) = some failure ↔
      (∃ model, request.modelName = some model ∧ catalog model = .error failure) ∨
        (∀ model ∈ request.modelName, catalog model = .ok none) ∧
          catalog name = .error failure := by
  have single : targetFailure? catalog [name] = some failure ↔ catalog name = .error failure := by
    cases answered : catalog name with
    | error other => simp [targetFailure?, answered]
    | ok found => cases found <;> simp [targetFailure?, answered]
  cases asked : request.modelName with
  | none => simp [single]
  | some model =>
      rw [Option.toList_some, List.singleton_append, targetFailure?]
      cases answered : catalog model with
      | error other => simp [answered]
      | ok found =>
          cases found with
          | none => simp [answered, single]
          | some target => simp [answered]

/-- A target that is known is found without a failure. -/
theorem TargetOf.resolved {key : String} {target : RelationHandle}
    (found : TargetOf catalog request name key target) :
    targetFailure? catalog (request.modelName.toList ++ [name]) = none ∧
      catalog.knows (request.modelName.toList ++ [name]) = true := by
  have resolved := resolveTarget_eq_some_iff.mpr found
  have noFailure := error?_resolveTarget catalog (request.modelName.toList ++ [name])
  have known := isSome_of_resolveTarget resolved
  rw [resolved] at noFailure
  exact ⟨noFailure.symm, known.symm⟩

/-- If no lookup fails, a target is known or all keys stand for nothing. -/
theorem exists_target_or_lacks
    (noFailure : targetFailure? catalog (request.modelName.toList ++ [name]) = none) :
    (∃ key target, TargetOf catalog request name key target) ∨
      catalog.knows (request.modelName.toList ++ [name]) = false ∧
        (request.modelName.toList ++ [name]).all catalog.lacks = true := by
  rw [← error?_resolveTarget] at noFailure
  obtain ⟨found, resolved⟩ := error?_eq_none_iff.mp noFailure
  cases found with
  | none =>
      have unknown := isSome_of_resolveTarget resolved
      exact .inr ⟨unknown.symm, resolveTarget_eq_none_iff.mp resolved⟩
  | some target => exact .inl ⟨target.1, target.2, resolveTarget_eq_some_iff.mp resolved⟩

end

/-! ## The first failure in document order -/

section

variable {context : Context}

private theorem ownFailure?_of_target {request : ExpandRequest} {nested : List ExpandEntry}
    {name key : String} {target : RelationHandle} (named : request.name = some name)
    (found : TargetOf context.catalog request name key target) :
    ownFailure? context (.request request nested) =
      ((conditionFailure? context.translator request.condition).map .filter).or
        ((tokensFailure? context.catalog request.order).map .configuration) := by
  simp [ownFailure?, named, found.resolved]

private theorem ownFailure?_of_targetFailure? {request : ExpandRequest} {nested : List ExpandEntry}
    {name : String} {failure : LookupFailure} (named : request.name = some name)
    (failed : targetFailure? context.catalog (request.modelName.toList ++ [name]) =
      some failure) :
    ownFailure? context (.request request nested) = some (.configuration failure) := by
  simp [ownFailure?, named, failed]

mutual

private theorem entryFailure?_eq_findSome? (context : Context) :
    ∀ entry : ExpandEntry,
      entryFailure? context entry =
        (liveWithin context.catalog entry).findSome? (ownFailure? context)
  | .name _ => rfl
  | .invalid _ => rfl
  | .request request nested => by
      have within := entriesFailure?_eq_findSome? context nested
      cases named : request.name with
      | none =>
          have dropped : isDropped context.catalog (.request request nested) = true := by
            simp [isDropped, dropDiagnostic?, named]
          rw [liveWithin_of_dropped dropped]
          simp [entryFailure?, ownFailure?, named]
      | some name =>
          cases failed : targetFailure? context.catalog (request.modelName.toList ++ [name]) with
          | some failure =>
              rw [liveWithin, findSome?_cons_eq_or, ownFailure?_of_targetFailure? named failed]
              simp [entryFailure?, named, failed]
          | none =>
              rcases exists_target_or_lacks failed with ⟨key, target, found⟩ | ⟨unknown, lacking⟩
              · have kept : isDropped context.catalog (.request request nested) = false := by
                  simp [isDropped, not_dropped_of_target named found]
                rw [liveWithin_of_kept kept, findSome?_cons_eq_or,
                  ownFailure?_of_target named found, ← within]
                simp [entryFailure?, named, failed, found.resolved.2, Option.or_assoc]
              · have dropped : isDropped context.catalog (.request request nested) = true := by
                  simp only [isDropped, dropDiagnostic?, named]
                  rw [if_pos lacking]
                  rfl
                rw [liveWithin_of_dropped dropped]
                simp [entryFailure?, ownFailure?, named, failed, unknown]

private theorem entriesFailure?_eq_findSome? (context : Context) :
    ∀ entries : List ExpandEntry,
      entriesFailure? context entries =
        (liveEntries context.catalog entries).findSome? (ownFailure? context)
  | [] => rfl
  | entry :: entries => by
      rw [entriesFailure?, liveEntries, List.findSome?_append,
        entryFailure?_eq_findSome? context entry, entriesFailure?_eq_findSome? context entries]

end

theorem resolveEntries_eq_error_iff {entries : List ExpandEntry} {error : CompileError} :
    resolveEntries context entries = .error error ↔
      (liveEntries context.catalog entries).findSome? (ownFailure? context) = some error := by
  rw [← entriesFailure?_eq_findSome?, ← error?_resolveEntries, error?_eq_some_iff]

/-! ## Failing entries -/

/-- An entry whose target is known fails if its condition or its order does. -/
theorem entryFails_of_contentFailure? {request : ExpandRequest} {nested : List ExpandEntry}
    {name key : String} {target : RelationHandle} {error : CompileError}
    (named : request.name = some name) (found : TargetOf context.catalog request name key target)
    (failed : ownFailure? context (.request request nested) = some error) :
    EntryFails context (.request request nested) := by
  rw [ownFailure?_of_target named found] at failed
  rcases Option.or_eq_some_iff.mp failed with failed | ⟨_, failed⟩
  · obtain ⟨raised, condition, _⟩ := Option.map_eq_some_iff.mp failed
    obtain ⟨expression, asked, refused⟩ := conditionFailure?_eq_some_iff.mp condition
    exact .condition named found asked refused
  · obtain ⟨failure, order, _⟩ := Option.map_eq_some_iff.mp failed
    obtain ⟨token, member, lookup⟩ := List.exists_of_findSome?_eq_some order
    obtain ⟨_, _, _, parsed, refused⟩ := lookupFailure?_eq_some_iff.mp lookup
    exact .order named found member parsed refused

private theorem entryFails_of_ownFailure? {entry : ExpandEntry} {error : CompileError}
    (failed : ownFailure? context entry = some error) : EntryFails context entry := by
  cases entry with
  | name association => cases failed
  | invalid raw => cases failed
  | request request nested =>
      cases named : request.name with
      | none => simp [ownFailure?, named] at failed
      | some name =>
          cases lookups :
              targetFailure? context.catalog (request.modelName.toList ++ [name]) with
          | some failure =>
              rcases targetFailure?_eq_some_iff.mp lookups with
                ⟨model, asked, raised⟩ | ⟨unknown, raised⟩
              · exact .model named asked raised
              · exact .name named unknown raised
          | none =>
              rcases exists_target_or_lacks lookups with ⟨key, target, found⟩ | ⟨unknown, _⟩
              · exact entryFails_of_contentFailure? named found failed
              · simp [ownFailure?, named, lookups, unknown] at failed

/-- A live entry that fails leads to a live entry with a failure of its own. -/
theorem exists_ownFailure?_of_entryFails {entries : List ExpandEntry} {entry : ExpandEntry}
    (live : entry ∈ liveEntries context.catalog entries) (fails : EntryFails context entry) :
    ∃ inner ∈ liveEntries context.catalog entries, (ownFailure? context inner).isSome := by
  cases fails with
  | @model request nested name model failure named asked failed =>
      have lookups : targetFailure? context.catalog (request.modelName.toList ++ [name]) =
          some failure := targetFailure?_eq_some_iff.mpr (.inl ⟨model, asked, failed⟩)
      exact ⟨_, live, by simp [ownFailure?_of_targetFailure? named lookups]⟩
  | @name request nested name failure named unknown failed =>
      have lookups : targetFailure? context.catalog (request.modelName.toList ++ [name]) =
          some failure := targetFailure?_eq_some_iff.mpr (.inr ⟨unknown, failed⟩)
      exact ⟨_, live, by simp [ownFailure?_of_targetFailure? named lookups]⟩
  | condition named found asked failed =>
      have condition := conditionFailure?_eq_some_iff.mpr ⟨_, asked, failed⟩
      refine ⟨_, live, ?_⟩
      rw [ownFailure?_of_target named found, condition]
      rfl
  | order named found asked parsed failed =>
      have lookup := lookupFailure?_eq_some_iff.mpr ⟨_, _, _, parsed, failed⟩
      obtain ⟨first, order⟩ := exists_tokensFailure?_iff.mpr ⟨_, asked, _, lookup⟩
      refine ⟨_, live, ?_⟩
      rw [ownFailure?_of_target named found, order]
      simp
  | @nested request nested name key target error named found failed =>
      have kept : isDropped context.catalog (.request request nested) = false := by
        simp [isDropped, not_dropped_of_target named found]
      obtain ⟨inner, member, innerFails⟩ :=
        List.exists_of_findSome?_eq_some (resolveEntries_eq_error_iff.mp failed)
      refine ⟨inner, ?_, by simp [innerFails]⟩
      exact mem_liveEntries_of_nested kept member live

private theorem exists_error_iff_exists_entryFails {entries : List ExpandEntry} :
    (∃ error, resolveEntries context entries = .error error) ↔
      ∃ entry ∈ liveEntries context.catalog entries, EntryFails context entry := by
  constructor
  · rintro ⟨error, failed⟩
    obtain ⟨entry, live, own⟩ :=
      List.exists_of_findSome?_eq_some (resolveEntries_eq_error_iff.mp failed)
    exact ⟨entry, live, entryFails_of_ownFailure? own⟩
  · rintro ⟨entry, live, fails⟩
    obtain ⟨inner, innerLive, own⟩ := exists_ownFailure?_of_entryFails live fails
    have found := List.findSome?_isSome_iff.mpr ⟨inner, innerLive, own⟩
    obtain ⟨error, first⟩ := Option.isSome_iff_exists.mp found
    exact ⟨error, resolveEntries_eq_error_iff.mpr first⟩

end

/-! ## What a dropped entry asks for -/

/-- An entry is another one, except for what dropped entries ask for, itself or at any depth
within it. -/
inductive Rewritten (catalog : Catalog) : ExpandEntry → ExpandEntry → Prop
  | same (entry : ExpandEntry) : Rewritten catalog entry entry
  | dropped {request other : ExpandRequest} {nested others : List ExpandEntry}
      (dropped : isDropped catalog (.request request nested) = true)
      (name : other.name = request.name) (modelName : other.modelName = request.modelName) :
      Rewritten catalog (.request request nested) (.request other others)
  | within {request : ExpandRequest} {nested others : List ExpandEntry}
      (within : List.Forall₂ (Rewritten catalog) nested others) :
      Rewritten catalog (.request request nested) (.request request others)

private theorem resolveEntry_of_dropped {context : Context} {request : ExpandRequest}
    {nested : List ExpandEntry}
    (dropped : isDropped context.catalog (.request request nested) = true) :
    (resolveEntry context (.request request nested)).map Prod.fst = .ok [] := by
  cases named : request.name with
  | none => simp [resolveEntry, named]
  | some name =>
      have lacking : (request.modelName.toList ++ [name]).all context.catalog.lacks = true := by
        by_cases lacking : (request.modelName.toList ++ [name]).all context.catalog.lacks = true
        · exact lacking
        · simp only [isDropped, dropDiagnostic?, named] at dropped
          rw [if_neg lacking] at dropped
          cases dropped
      have unknown := resolveTarget_eq_none_iff.mpr lacking
      simp [resolveEntry, named, unknown]

private theorem isDropped_congr {catalog : Catalog} {request other : ExpandRequest}
    {nested others : List ExpandEntry} (name : other.name = request.name)
    (modelName : other.modelName = request.modelName) :
    isDropped catalog (.request other others) = isDropped catalog (.request request nested) := by
  simp only [isDropped, dropDiagnostic?, name, modelName]
  cases request.name with
  | none => rfl
  | some name => rfl

variable {context : Context}

mutual

private theorem map_fst_resolveEntry_of_rewritten :
    ∀ {entry other : ExpandEntry}, Rewritten context.catalog entry other →
      (resolveEntry context other).map Prod.fst = (resolveEntry context entry).map Prod.fst
  | _, _, .same entry => rfl
  | .request request nested, .request other others, .dropped dropped name modelName => by
      rw [resolveEntry_of_dropped dropped, resolveEntry_of_dropped]
      rw [isDropped_congr name modelName, dropped]
  | .request request nested, .request _ others, .within within => by
      have same := map_fst_resolveEntries_of_rewritten within
      rw [resolveEntry, resolveEntry]
      cases request.name with
      | none => rfl
      | some name =>
          apply map_bind_congr_right
          intro found
          cases found with
          | none => rfl
          | some target =>
              apply map_bind_congr_right
              intro condition
              apply map_bind_congr_right
              intro order
              apply map_bind_congr same
              intro result other equal
              simp [equal]

private theorem map_fst_resolveEntries_of_rewritten :
    ∀ {entries others : List ExpandEntry}, List.Forall₂ (Rewritten context.catalog) entries others →
      (resolveEntries context others).map Prod.fst = (resolveEntries context entries).map Prod.fst
  | [], [], .nil => rfl
  | entry :: entries, other :: others, .cons first rest => by
      have firstSame := map_fst_resolveEntry_of_rewritten first
      have restSame := map_fst_resolveEntries_of_rewritten rest
      rw [resolveEntries, resolveEntries]
      apply map_bind_congr firstSame
      intro result otherResult equal
      apply map_bind_congr restSame
      intro more otherMore moreEqual
      simp [equal, moreEqual]

end

/-! ## Entries fail by what is live -/

/-- Entries fail exactly if a live one does, with the first failure in document order.
Entries that differ in what dropped ones ask for have the same outcome, apart from the
diagnostics of a success. -/
theorem resolveEntries_fails_by_live (context : Context) (entries : List ExpandEntry) :
    ((∃ error, resolveEntries context entries = .error error) ↔
        ∃ entry ∈ liveEntries context.catalog entries, EntryFails context entry) ∧
      (∀ error, resolveEntries context entries = .error error ↔
        (liveEntries context.catalog entries).findSome? (ownFailure? context) = some error) ∧
      ∀ others, List.Forall₂ (Rewritten context.catalog) entries others →
        (resolveEntries context others).map Prod.fst =
          (resolveEntries context entries).map Prod.fst := by
  refine ⟨exists_error_iff_exists_entryFails, ?_, ?_⟩
  · intro error
    exact resolveEntries_eq_error_iff
  · intro others rewritten
    exact map_fst_resolveEntries_of_rewritten rewritten

/-- A request that is unknown, around a request without a name, asks for malformed
conditions in vain. -/
theorem resolveEntries_of_rewritten_ghost :
    let context : Context := ⟨fun key => .ok (if key = "tags" then some ⟨"Tag", none⟩ else none),
      Filter.translate⟩
    let unnamed : ExpandRequest := ⟨none, none, none, none, none, none, [], none⟩
    let ghost : ExpandRequest := { unnamed with name := some "ghost" }
    let tags : ExpandRequest := { unnamed with name := some "tags" }
    let malformed : Json := .object [("$bogus", .null)]
    let entries : List ExpandEntry :=
      [.request ghost [], .request tags [.request unnamed [], .name "owner"]]
    let others : List ExpandEntry :=
      [.request { ghost with condition := some malformed } [.request tags []],
        .request tags [.request { unnamed with condition := some malformed } [], .name "owner"]]
    let tagsExpansion : Expansion :=
      ⟨"tags", ⟨"Tag", none⟩, "tags", none, none, none, none, [], none⟩
    List.Forall₂ (Rewritten context.catalog) entries others ∧
      (resolveEntries context others).map Prod.fst =
        .ok [.expand tagsExpansion [.name "owner"]] := by
  intro context unnamed ghost tags malformed entries others tagsExpansion
  have ghostDropped : isDropped context.catalog (.request ghost []) = true := by rfl
  have unnamedDropped : isDropped context.catalog (.request unnamed []) = true := by rfl
  have rewritten : List.Forall₂ (Rewritten context.catalog) entries others := by
    apply List.Forall₂.cons (.dropped ghostDropped rfl rfl)
    refine List.Forall₂.cons (.within ?_) .nil
    exact .cons (.dropped unnamedDropped rfl rfl) (.cons (.same _) .nil)
  have resolved : (resolveEntries context entries).map Prod.fst =
      .ok [.expand tagsExpansion [.name "owner"]] := by rfl
  have unchanged := (resolveEntries_fails_by_live context entries).2.2 others rewritten
  exact ⟨rewritten, unchanged.trans resolved⟩

end QueryCompiler
