import QueryCompiler.Compile.Diagnostic
import QueryCompiler.Descriptor.Include
import QueryCompiler.Filter.Basic
import QueryCompiler.Query.Basic
import QueryCompiler.Relation.Registry
import QueryCompiler.Sort.Token

/-!
# Resolving orders and associations

Sort tokens become ordering terms, and associations that are asked for become
entries of `include`.  What resolves to nothing is dropped or weakened, with a
diagnostic; an error comes from a lookup or a filter only.

Each function gives its result together with the diagnostics in the order of the
input.
-/

namespace QueryCompiler

/-- Why nothing was compiled.  What is written along the way can always be written, so no
step gives the last of these errors. -/
inductive CompileError where
  | filter (error : FilterError)
  | configuration (failure : LookupFailure)
  | serialize (reason : String)
  deriving DecidableEq, Repr

def CompileError.message : CompileError → String
  | .filter error => "Translation failure: " ++ error.message
  | .configuration failure => "Configuration failure: " ++ failure.message
  | .serialize reason => "Failed to serialize descriptor: " ++ reason

/-- What the compiler consults. -/
structure Context where
  catalog : Catalog
  translator : FilterTranslator

/-! ## Orders -/

/-- The terms and diagnostics of one sort token.  A token with an unknown relation
becomes a term on its column. -/
def resolveToken (catalog : Catalog) (raw : String) :
    Except LookupFailure (List OrderTerm × List Diagnostic) :=
  match SortToken.parse raw with
  | .error error => .ok ([], [.invalidSortToken raw error.message])
  | .ok ⟨direction, none, column⟩ => .ok ([.plain column direction], [])
  | .ok ⟨direction, some relation, column⟩ => do
      match ← catalog relation with
      | some handle => return ([.qualified column direction handle relation], [])
      | none =>
          return ([.plain column direction], [.unresolvedOrderRelation raw relation])

def resolveOrder (catalog : Catalog) :
    List String → Except LookupFailure (List OrderTerm × List Diagnostic)
  | [] => .ok ([], [])
  | token :: tokens => do
      let (terms, diagnostics) ← resolveToken catalog token
      let (moreTerms, moreDiagnostics) ← resolveOrder catalog tokens
      return (terms ++ moreTerms, diagnostics ++ moreDiagnostics)

/-! ## Associations -/

/-- The first of some keys that is known, with its handle. -/
def resolveTarget (catalog : Catalog) :
    List String → Except LookupFailure (Option (String × RelationHandle))
  | [] => .ok none
  | key :: keys => do
      match ← catalog key with
      | some handle => return some (key, handle)
      | none => resolveTarget catalog keys

def resolveCondition (translator : FilterTranslator) :
    Option Json → Except FilterError (Option Predicate)
  | none => .ok none
  | some expression => (translator expression).map some

mutual

/-- The entries and diagnostics of one association that is asked for.  It is
looked up by its model and then by its name. -/
def resolveEntry (context : Context) :
    ExpandEntry → Except CompileError (List Include × List Diagnostic)
  | .name association => .ok ([.name association], [])
  | .invalid raw => .ok ([], [.invalidExpandShape raw.compact])
  | .request request nested =>
      match request.name with
      | none =>
          .ok ([], [.missingExpandName (ExpandEntry.toJson (.request request nested)).compact])
      | some name => do
          match ← (resolveTarget context.catalog (request.modelName.toList ++ [name])).mapError
              .configuration with
          | none => return ([], [.unresolvedExpand name request.modelName])
          | some (targetKey, target) => do
              let condition ←
                (resolveCondition context.translator request.condition).mapError .filter
              let (order, orderDiagnostics) ←
                (resolveOrder context.catalog request.order).mapError .configuration
              let (includes, nestedDiagnostics) ← resolveEntries context nested
              let expansion : Expansion :=
                { targetKey := targetKey, target := target, name := name,
                  condition := condition, isRequired := request.isRequired,
                  limit := request.limit, separate := request.separate, order := order,
                  attributes := request.attributes }
              return ([.expand expansion includes], orderDiagnostics ++ nestedDiagnostics)

def resolveEntries (context : Context) :
    List ExpandEntry → Except CompileError (List Include × List Diagnostic)
  | [] => .ok ([], [])
  | entry :: entries => do
      let (includes, diagnostics) ← resolveEntry context entry
      let (moreIncludes, moreDiagnostics) ← resolveEntries context entries
      return (includes ++ moreIncludes, diagnostics ++ moreDiagnostics)

end

end QueryCompiler
