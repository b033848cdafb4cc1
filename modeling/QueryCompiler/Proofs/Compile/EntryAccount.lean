import Mathlib.Data.List.Forall2
import QueryCompiler.Proofs.Compile.LiveEntries

/-!
# Every live entry is accounted for

The entries that are kept are the nodes of what entries resolve to, level by level.  Each
other live entry has one diagnostic, that it was dropped, and the diagnostics stand in
document order behind the ones that are there already.
-/

namespace QueryCompiler

/-! ## What is kept -/

/-- What an entry that is kept becomes: a name stays as it is, and what a request becomes
has one entry for each kept entry within the request, in order. -/
inductive Materialized (context : Context) : ExpandEntry → Include → Prop
  | name (association : String) : Materialized context (.name association) (.name association)
  | expand {request : ExpandRequest} {nested : List ExpandEntry} {expansion : Expansion}
      {includes : List Include} (expanded : Expanded context request expansion)
      (within : List.Forall₂ (Materialized context) (keptEntries context.catalog nested)
        includes) :
      Materialized context (.request request nested) (.expand expansion includes)

namespace Include

mutual

/-- How many entries an included association has, with itself. -/
def nodeCount : Include → Nat
  | .name _ => 1
  | .expand _ nested => nodeCountOfItems nested + 1

def nodeCountOfItems : List Include → Nat
  | [] => 0
  | included :: includes => nodeCount included + nodeCountOfItems includes

end

end Include

private theorem Resolution.materialized {context : Context} {entries : List ExpandEntry}
    {includes : List Include} {diagnostics : List Diagnostic}
    (resolution : Resolution context entries includes diagnostics) :
    List.Forall₂ (Materialized context) (keptEntries context.catalog entries) includes := by
  induction resolution with
  | nil => exact .nil
  | name association rest restHypothesis =>
      rw [keptEntries_cons_of_kept rfl]
      exact .cons (.name association) restHypothesis
  | dropped dropped rest restHypothesis =>
      rw [keptEntries_cons_of_dropped dropped]
      exact restHypothesis
  | expanded kept expanded ordered within rest withinHypothesis restHypothesis =>
      rw [keptEntries_cons_of_kept kept]
      exact .cons (.expand expanded withinHypothesis) restHypothesis

/-! ## What is told -/

/-- The diagnostic of a sort token: it is not read, or its relation is unknown. -/
def tokenDiagnostic? (catalog : Catalog) (token : String) : Option Diagnostic :=
  match SortToken.parse token with
  | .error error => some (.invalidSortToken token error.message)
  | .ok ⟨_, some relation, _⟩ =>
      if catalog.lacks relation then some (.unresolvedOrderRelation token relation) else none
  | .ok _ => none

/-- The diagnostics of an entry itself: why it was dropped, or what became of its order. -/
def ownDiagnostics (catalog : Catalog) (entry : ExpandEntry) : List Diagnostic :=
  match dropDiagnostic? catalog entry, entry with
  | some diagnostic, _ => [diagnostic]
  | none, .request request _ => request.order.filterMap (tokenDiagnostic? catalog)
  | none, _ => []

private theorem ResolvedToken.diagnostics_eq {catalog : Catalog} {token : String}
    {terms : List OrderTerm} {diagnostics : List Diagnostic}
    (resolved : ResolvedToken catalog token terms diagnostics) :
    diagnostics = (tokenDiagnostic? catalog token).toList := by
  unfold tokenDiagnostic?
  cases resolved with
  | invalid refused => simp [refused]
  | plain parsed => simp [parsed]
  | qualified parsed known => simp [parsed, Catalog.lacks, known]
  | unresolved parsed unknown => simp [parsed, Catalog.lacks, unknown]

theorem ResolvedOrder.diagnostics_eq {catalog : Catalog} {tokens : List String}
    {terms : List OrderTerm} {diagnostics : List Diagnostic}
    (resolved : ResolvedOrder catalog tokens terms diagnostics) :
    diagnostics = tokens.filterMap (tokenDiagnostic? catalog) := by
  induction resolved with
  | nil => rfl
  | cons first rest inductionHypothesis =>
      rw [first.diagnostics_eq, inductionHypothesis, List.filterMap_cons]
      split
      case h_1 untold => simp [untold]
      case h_2 told => simp [told]

section

variable {catalog : Catalog}

private theorem not_isDrop_of_tokenDiagnostic? {token : String} {diagnostic : Diagnostic}
    (told : tokenDiagnostic? catalog token = some diagnostic) : diagnostic.isDrop = false := by
  unfold tokenDiagnostic? at told
  split at told
  case h_1 =>
    cases told
    rfl
  case h_2 =>
    split at told
    · cases told
      rfl
    · cases told
  case h_3 => cases told

private theorem not_isDrop_of_mem_tokens {tokens : List String} :
    ∀ diagnostic ∈ tokens.filterMap (tokenDiagnostic? catalog), diagnostic.isDrop = false := by
  intro diagnostic member
  obtain ⟨token, _, told⟩ := List.mem_filterMap.mp member
  exact not_isDrop_of_tokenDiagnostic? told

private theorem ownDiagnostics_of_dropped {entry : ExpandEntry} {diagnostic : Diagnostic}
    (dropped : dropDiagnostic? catalog entry = some diagnostic) :
    ownDiagnostics catalog entry = [diagnostic] := by
  simp [ownDiagnostics, dropped]

private theorem ownDiagnostics_of_kept {request : ExpandRequest} {nested : List ExpandEntry}
    (kept : dropDiagnostic? catalog (.request request nested) = none) :
    ownDiagnostics catalog (.request request nested) =
      request.order.filterMap (tokenDiagnostic? catalog) := by
  simp [ownDiagnostics, kept]

/-- Of the diagnostics of an entry, the one that tells of a drop is that of its own. -/
theorem filter_isDrop_ownDiagnostics (entry : ExpandEntry) :
    (ownDiagnostics catalog entry).filter Diagnostic.isDrop =
      (dropDiagnostic? catalog entry).toList := by
  cases found : dropDiagnostic? catalog entry with
  | some diagnostic =>
      simp [ownDiagnostics_of_dropped found, isDrop_of_dropDiagnostic? found]
  | none =>
      cases entry with
      | name association => rfl
      | invalid raw => cases found
      | request request nested =>
          rw [ownDiagnostics_of_kept found, Option.toList_none, List.filter_eq_nil_iff]
          intro diagnostic member
          simp [not_isDrop_of_mem_tokens diagnostic member]

end

namespace Resolution

variable {context : Context} {entries : List ExpandEntry} {includes : List Include}
  {diagnostics : List Diagnostic}

/-- The diagnostics stand in document order: those of an entry itself come before those of
the entries within it. -/
theorem diagnostics_eq (resolution : Resolution context entries includes diagnostics) :
    diagnostics =
      (liveEntries context.catalog entries).flatMap (ownDiagnostics context.catalog) := by
  induction resolution with
  | nil => rfl
  | name association rest restHypothesis =>
      rw [restHypothesis]
      rfl
  | dropped dropped rest restHypothesis =>
      rw [liveEntries_cons_of_dropped dropped, List.flatMap_cons,
        ownDiagnostics_of_dropped dropped, restHypothesis]
      rfl
  | expanded kept expanded ordered within rest withinHypothesis restHypothesis =>
      rw [liveEntries_cons_of_kept kept, List.flatMap_cons, List.flatMap_append,
        ownDiagnostics_of_kept kept, ordered.diagnostics_eq, withinHypothesis, restHypothesis,
        List.append_assoc]

/-- Every live entry is a node of the result, or a diagnostic tells that it was dropped. -/
theorem nodeCount_add_countP (resolution : Resolution context entries includes diagnostics) :
    Include.nodeCountOfItems includes + diagnostics.countP Diagnostic.isDrop =
      (liveEntries context.catalog entries).length := by
  induction resolution with
  | nil => rfl
  | name association rest restHypothesis =>
      simp only [Include.nodeCountOfItems, Include.nodeCount, liveEntries, liveWithin,
        List.length_append, List.length_singleton]
      omega
  | dropped dropped rest restHypothesis =>
      rw [liveEntries_cons_of_dropped dropped, List.length_cons,
        List.countP_cons_of_pos (isDrop_of_dropDiagnostic? dropped)]
      omega
  | expanded kept expanded ordered within rest withinHypothesis restHypothesis =>
      -- What is told of the order of an entry is no drop.
      rename_i orderDiagnostics _ _
      have orderCount : orderDiagnostics.countP Diagnostic.isDrop = 0 := by
        rw [ordered.diagnostics_eq, List.countP_eq_zero]
        intro diagnostic member
        simp [not_isDrop_of_mem_tokens diagnostic member]
      simp only [Include.nodeCountOfItems, Include.nodeCount, List.countP_append,
        liveEntries_cons_of_kept kept, List.length_cons, List.length_append, orderCount]
      omega

end Resolution

/-! ## Diagnostics that are there already -/

/-- Resolve sort tokens when some diagnostics are there, each new one behind them. -/
def resolveOrderOnto (catalog : Catalog) :
    List String → List Diagnostic → Except LookupFailure (List OrderTerm × List Diagnostic)
  | [], recorded => .ok ([], recorded)
  | token :: tokens, recorded => do
      let (terms, diagnostics) ← resolveToken catalog token
      let (moreTerms, recorded) ← resolveOrderOnto catalog tokens (recorded ++ diagnostics)
      return (terms ++ moreTerms, recorded)

mutual

/-- Resolve one entry when some diagnostics are there. -/
def resolveEntryOnto (context : Context) :
    ExpandEntry → List Diagnostic → Except CompileError (List Include × List Diagnostic)
  | .name association, recorded => .ok ([.name association], recorded)
  | .invalid raw, recorded => .ok ([], recorded ++ [.invalidExpandShape raw.compact])
  | .request request nested, recorded =>
      match request.name with
      | none =>
          let entry := (ExpandEntry.toJson (.request request nested)).compact
          .ok ([], recorded ++ [.missingExpandName entry])
      | some name => do
          match ← (resolveTarget context.catalog (request.modelName.toList ++ [name])).mapError
              .configuration with
          | none => return ([], recorded ++ [.unresolvedExpand name request.modelName])
          | some (targetKey, target) => do
              let condition ←
                (resolveCondition context.translator request.condition).mapError .filter
              let (order, recorded) ←
                (resolveOrderOnto context.catalog request.order recorded).mapError .configuration
              let (includes, recorded) ← resolveEntriesOnto context nested recorded
              let expansion : Expansion :=
                { targetKey := targetKey, target := target, name := name,
                  condition := condition, isRequired := request.isRequired,
                  limit := request.limit, separate := request.separate, order := order,
                  attributes := request.attributes }
              return ([.expand expansion includes], recorded)

/-- Resolve entries when some diagnostics are there, each new one behind them. -/
def resolveEntriesOnto (context : Context) :
    List ExpandEntry → List Diagnostic → Except CompileError (List Include × List Diagnostic)
  | [], recorded => .ok ([], recorded)
  | entry :: entries, recorded => do
      let (includes, recorded) ← resolveEntryOnto context entry recorded
      let (moreIncludes, recorded) ← resolveEntriesOnto context entries recorded
      return (includes ++ moreIncludes, recorded)

end

/-- A result with its diagnostics behind others. -/
def behind {α : Type} (recorded : List Diagnostic) (result : α × List Diagnostic) :
    α × List Diagnostic :=
  (result.1, recorded ++ result.2)

theorem resolveOrderOnto_eq (catalog : Catalog) (tokens : List String)
    (recorded : List Diagnostic) :
    resolveOrderOnto catalog tokens recorded =
      (resolveOrder catalog tokens).map (behind recorded) := by
  induction tokens generalizing recorded with
  | nil => simp [resolveOrderOnto, resolveOrder, behind]
  | cons token tokens inductionHypothesis =>
      rw [resolveOrderOnto, resolveOrder]
      cases resolveToken catalog token with
      | error failure => rfl
      | ok first =>
          simp only [Outcome.ok_bind, inductionHypothesis]
          cases resolveOrder catalog tokens with
          | error failure => rfl
          | ok rest => simp [behind]

mutual

private theorem resolveEntryOnto_eq (context : Context) :
    ∀ (entry : ExpandEntry) (recorded : List Diagnostic),
      resolveEntryOnto context entry recorded =
        (resolveEntry context entry).map (behind recorded)
  | .name association, recorded => by simp [resolveEntryOnto, resolveEntry, behind]
  | .invalid raw, recorded => by simp [resolveEntryOnto, resolveEntry, behind]
  | .request request nested, recorded => by
      rw [resolveEntryOnto, resolveEntry]
      cases request.name with
      | none => simp [behind]
      | some name =>
          apply Outcome.bind_eq_map_bind
          intro found
          cases found with
          | none => simp [behind]
          | some target =>
              apply Outcome.bind_eq_map_bind
              intro condition
              rw [resolveOrderOnto_eq]
              cases resolveOrder context.catalog request.order with
              | error failure => rfl
              | ok order =>
                  simp only [Outcome.map_ok, Outcome.mapError_ok, Outcome.ok_bind,
                    resolveEntriesOnto_eq context nested]
                  cases resolveEntries context nested with
                  | error error => rfl
                  | ok result => simp [behind]

/-- The diagnostics that are there already stay in front and change nothing else. -/
theorem resolveEntriesOnto_eq (context : Context) :
    ∀ (entries : List ExpandEntry) (recorded : List Diagnostic),
      resolveEntriesOnto context entries recorded =
        (resolveEntries context entries).map (behind recorded)
  | [], recorded => by simp [resolveEntriesOnto, resolveEntries, behind]
  | entry :: entries, recorded => by
      rw [resolveEntriesOnto, resolveEntries, resolveEntryOnto_eq context entry recorded]
      cases resolveEntry context entry with
      | error error => rfl
      | ok first =>
          simp only [Outcome.map_ok, Outcome.ok_bind, resolveEntriesOnto_eq context entries]
          cases resolveEntries context entries with
          | error error => rfl
          | ok rest => simp [behind]

end

/-! ## Every live entry is accounted for -/

/-- Entries that resolve give, behind the diagnostics that are there already, the ones of
the live entries in document order.  Level by level the result has one entry for each kept
entry, and each of the other live entries has one diagnostic that it was dropped. -/
theorem resolveEntriesOnto_accounts_for_live {context : Context} {entries : List ExpandEntry}
    {recorded diagnostics : List Diagnostic} {includes : List Include}
    (resolved : resolveEntriesOnto context entries recorded = .ok (includes, diagnostics)) :
    ∃ added, resolveEntries context entries = .ok (includes, added) ∧
      diagnostics = recorded ++ added ∧
      List.Forall₂ (Materialized context) (keptEntries context.catalog entries) includes ∧
      added = (liveEntries context.catalog entries).flatMap (ownDiagnostics context.catalog) ∧
      added.filter Diagnostic.isDrop =
        (liveEntries context.catalog entries).filterMap (dropDiagnostic? context.catalog) ∧
      Include.nodeCountOfItems includes + added.countP Diagnostic.isDrop =
        (liveEntries context.catalog entries).length := by
  rw [resolveEntriesOnto_eq] at resolved
  obtain ⟨⟨included, added⟩, entriesResolved, together⟩ := Outcome.map_eq_ok.mp resolved
  obtain ⟨rfl, rfl⟩ := Prod.mk.inj together
  have resolution := resolution_of_resolveEntries entriesResolved
  have told := resolution.diagnostics_eq
  have drops : added.filter Diagnostic.isDrop =
      (liveEntries context.catalog entries).filterMap (dropDiagnostic? context.catalog) := by
    rw [told, List.filter_flatMap, List.filterMap_eq_flatMap_toList]
    apply List.flatMap_congr
    intro entry _
    exact filter_isDrop_ownDiagnostics entry
  exact ⟨added, entriesResolved, rfl, resolution.materialized, told, drops,
    resolution.nodeCount_add_countP⟩

/-- A name, a value that is no entry, a request whose model is unknown with requests within
it, and an unknown request around a name. -/
theorem resolveEntriesOnto_accounts_for_pictures :
    let catalog : Catalog := fun key =>
      if key = "pictures" then .ok (some ⟨"Picture", none⟩)
      else if key = "Tag" then .ok (some ⟨"Tag", some "tags"⟩)
      else .ok none
    let context : Context := ⟨catalog, Filter.translate⟩
    let unnamed : ExpandRequest := ⟨none, none, none, none, none, none, [], none⟩
    let ghost : ExpandRequest := { unnamed with name := some "ghost" }
    let labels : ExpandRequest := { unnamed with name := some "labels", modelName := some "Tag" }
    let pictures : ExpandRequest :=
      { unnamed with
        name := some "pictures", modelName := some "Nope",
        order := ["-$pictures.age$", "ghost.size"] }
    let entries : List ExpandEntry :=
      [.name "owner", .invalid (.bool true),
        .request pictures [.request labels [], .request unnamed []],
        .request ghost [.name "lost"]]
    let age : OrderTerm := .qualified "age" .descending ⟨"Picture", none⟩ "pictures"
    let includes : List Include :=
      [.name "owner",
        .expand
          ⟨"pictures", ⟨"Picture", none⟩, "pictures", none, none, none, none,
            [age, .plain "size" .ascending], none⟩
          [.expand ⟨"Tag", ⟨"Tag", some "tags"⟩, "labels", none, none, none, none, [], none⟩ []]]
    let added : List Diagnostic :=
      [.invalidExpandShape "true", .unresolvedOrderRelation "ghost.size" "ghost",
        .missingExpandName "\x7b\x7d", .unresolvedExpand "ghost" none]
    let recorded : List Diagnostic := [.invalidSortToken "" "Empty sort token"]
    resolveEntriesOnto context entries recorded = .ok (includes, recorded ++ added) ∧
      List.Forall₂ (Materialized context) (keptEntries catalog entries) includes ∧
      added = (liveEntries catalog entries).flatMap (ownDiagnostics catalog) ∧
      Include.nodeCountOfItems includes = 3 ∧ added.countP Diagnostic.isDrop = 3 ∧
      (liveEntries catalog entries).length = 6 := by
  intro catalog context unnamed ghost labels pictures entries age includes added recorded
  have ageRead : SortToken.parse "-$pictures.age$" =
      .ok ⟨.descending, some "pictures", "age"⟩ := by decide +kernel
  have sizeRead : SortToken.parse "ghost.size" =
      .ok ⟨.ascending, some "ghost", "size"⟩ := by decide +kernel
  have resolved : resolveEntriesOnto context entries recorded =
      .ok (includes, recorded ++ added) := by
    simp [context, catalog, entries, pictures, labels, ghost, unnamed, includes, age, added,
      recorded, resolveEntriesOnto, resolveEntryOnto, resolveTarget, resolveCondition,
      resolveOrderOnto, resolveToken, ageRead, sizeRead]
    exact ⟨by decide, by decide⟩
  obtain ⟨told, _, behindRecorded, materialized, inOrder, _, counted⟩ :=
    resolveEntriesOnto_accounts_for_live resolved
  cases List.append_cancel_left behindRecorded
  have nodes : Include.nodeCountOfItems includes = 3 := by rfl
  have drops : added.countP Diagnostic.isDrop = 3 := by rfl
  rw [nodes, drops] at counted
  exact ⟨resolved, materialized, inOrder, nodes, drops, counted.symm⟩

end QueryCompiler
