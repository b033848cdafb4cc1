import QueryCompiler.Compile.Resolve
import QueryCompiler.Proofs.Outcome

/-!
# What resolving gives

`of_resolveToken` and `of_resolveEntry` list what a sort token and an entry resolve to, so
that statements about resolved orders and entries need one case for each outcome and no
step of the resolution.
-/

namespace QueryCompiler

open Json

/-! ## Sort tokens -/

/-- What one sort token resolves to. -/
inductive ResolvedToken (catalog : Catalog) (token : String) :
    List OrderTerm → List Diagnostic → Prop
  | invalid {error : SortTokenError} (refused : SortToken.parse token = .error error) :
      ResolvedToken catalog token [] [.invalidSortToken token error.message]
  | plain {direction : Direction} {column : String}
      (parsed : SortToken.parse token = .ok ⟨direction, none, column⟩) :
      ResolvedToken catalog token [.plain column direction] []
  | qualified {direction : Direction} {relation column : String} {handle : RelationHandle}
      (parsed : SortToken.parse token = .ok ⟨direction, some relation, column⟩)
      (known : catalog relation = .ok (some handle)) :
      ResolvedToken catalog token [.qualified column direction handle relation] []
  | unresolved {direction : Direction} {relation column : String}
      (parsed : SortToken.parse token = .ok ⟨direction, some relation, column⟩)
      (unknown : catalog relation = .ok none) :
      ResolvedToken catalog token [.plain column direction]
        [.unresolvedOrderRelation token relation]

private theorem of_resolveToken {catalog : Catalog} {token : String} {terms : List OrderTerm}
    {diagnostics : List Diagnostic}
    (resolved : resolveToken catalog token = .ok (terms, diagnostics)) :
    ResolvedToken catalog token terms diagnostics := by
  unfold resolveToken at resolved
  split at resolved
  case h_1 refused =>
    cases resolved
    exact .invalid refused
  case h_2 parsed =>
    cases resolved
    exact .plain parsed
  case h_3 parsed =>
    obtain ⟨found, answered, resolved⟩ := Outcome.bind_eq_ok.mp resolved
    cases found with
    | some handle =>
        cases resolved
        exact .qualified parsed answered
    | none =>
        cases resolved
        exact .unresolved parsed answered

/-- What sort tokens resolve to, one after another. -/
inductive ResolvedOrder (catalog : Catalog) :
    List String → List OrderTerm → List Diagnostic → Prop
  | nil : ResolvedOrder catalog [] [] []
  | cons {token : String} {tokens : List String} {terms moreTerms : List OrderTerm}
      {diagnostics moreDiagnostics : List Diagnostic}
      (first : ResolvedToken catalog token terms diagnostics)
      (rest : ResolvedOrder catalog tokens moreTerms moreDiagnostics) :
      ResolvedOrder catalog (token :: tokens) (terms ++ moreTerms) (diagnostics ++ moreDiagnostics)

theorem of_resolveOrder {catalog : Catalog} {tokens : List String} {terms : List OrderTerm}
    {diagnostics : List Diagnostic}
    (resolved : resolveOrder catalog tokens = .ok (terms, diagnostics)) :
    ResolvedOrder catalog tokens terms diagnostics := by
  induction tokens generalizing terms diagnostics with
  | nil =>
      cases resolved
      exact .nil
  | cons token tokens inductionHypothesis =>
      rw [resolveOrder] at resolved
      obtain ⟨first, firstResolved, resolved⟩ := Outcome.bind_eq_ok.mp resolved
      obtain ⟨rest, restResolved, last⟩ := Outcome.bind_eq_ok.mp resolved
      cases last
      exact .cons (of_resolveToken firstResolved) (inductionHypothesis restResolved)

/-! ## Entries -/

/-- What one entry resolves to. -/
inductive ResolvedEntry (context : Context) : ExpandEntry → List Include → List Diagnostic → Prop
  | name (association : String) :
      ResolvedEntry context (.name association) [.name association] []
  | invalid (raw : Json) :
      ResolvedEntry context (.invalid raw) [] [.invalidExpandShape raw.compact]
  | unnamed {request : ExpandRequest} {nested : List ExpandEntry} (unnamed : request.name = none) :
      ResolvedEntry context (.request request nested) []
        [.missingExpandName (ExpandEntry.toJson (.request request nested)).compact]
  | unresolved {request : ExpandRequest} {nested : List ExpandEntry} {name : String}
      (named : request.name = some name)
      (unknown : resolveTarget context.catalog (request.modelName.toList ++ [name]) = .ok none) :
      ResolvedEntry context (.request request nested) [] [.unresolvedExpand name request.modelName]
  | expanded {request : ExpandRequest} {nested : List ExpandEntry} {name targetKey : String}
      {target : RelationHandle} {condition : Option Predicate} {order : List OrderTerm}
      {includes : List Include} {orderDiagnostics nestedDiagnostics : List Diagnostic}
      (named : request.name = some name)
      (known : resolveTarget context.catalog (request.modelName.toList ++ [name]) =
        .ok (some (targetKey, target)))
      (conditioned : resolveCondition context.translator request.condition = .ok condition)
      (ordered : resolveOrder context.catalog request.order = .ok (order, orderDiagnostics))
      (entries : resolveEntries context nested = .ok (includes, nestedDiagnostics)) :
      ResolvedEntry context (.request request nested)
        [.expand ⟨targetKey, target, name, condition, request.isRequired, request.limit,
          request.separate, order, request.attributes⟩ includes]
        (orderDiagnostics ++ nestedDiagnostics)

theorem of_resolveEntry {context : Context} {entry : ExpandEntry} {includes : List Include}
    {diagnostics : List Diagnostic}
    (resolved : resolveEntry context entry = .ok (includes, diagnostics)) :
    ResolvedEntry context entry includes diagnostics := by
  cases entry with
  | name association =>
      cases resolved
      exact .name association
  | invalid raw =>
      cases resolved
      exact .invalid raw
  | request request nested =>
      rw [resolveEntry] at resolved
      split at resolved
      case h_1 unnamed =>
        cases resolved
        exact .unnamed unnamed
      case h_2 name named =>
        obtain ⟨target, targetResolved, resolved⟩ := Outcome.bind_eq_ok.mp resolved
        have found := Outcome.mapError_eq_ok.mp targetResolved
        split at resolved
        · cases resolved
          exact .unresolved named found
        · obtain ⟨condition, conditionResolved, resolved⟩ := Outcome.bind_eq_ok.mp resolved
          obtain ⟨order, orderResolved, resolved⟩ := Outcome.bind_eq_ok.mp resolved
          obtain ⟨nestedIncludes, nestedResolved, last⟩ := Outcome.bind_eq_ok.mp resolved
          cases last
          exact .expanded named found (Outcome.mapError_eq_ok.mp conditionResolved)
            (Outcome.mapError_eq_ok.mp orderResolved) nestedResolved

/-- The entries of a list resolve one after another. -/
theorem resolveEntries_cons_eq_ok {context : Context} {entry : ExpandEntry}
    {entries : List ExpandEntry} {includes : List Include} {diagnostics : List Diagnostic}
    (resolved : resolveEntries context (entry :: entries) = .ok (includes, diagnostics)) :
    ∃ first rest, resolveEntry context entry = .ok first ∧
      resolveEntries context entries = .ok rest ∧
      includes = first.1 ++ rest.1 ∧ diagnostics = first.2 ++ rest.2 := by
  rw [resolveEntries] at resolved
  obtain ⟨first, firstResolved, resolved⟩ := Outcome.bind_eq_ok.mp resolved
  obtain ⟨rest, restResolved, last⟩ := Outcome.bind_eq_ok.mp resolved
  cases last
  exact ⟨first, rest, firstResolved, restResolved, rfl, rfl⟩

end QueryCompiler
