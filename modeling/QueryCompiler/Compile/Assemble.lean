import QueryCompiler.Compile.Resolve
import QueryCompiler.Descriptor.Basic

/-!
# Assembling descriptors

A specification is merged onto a base descriptor.  The order is resolved first,
then the associations, then the filter and the additional filter, and the first
error is the result.
-/

namespace QueryCompiler

def assembledOffset (spec : QuerySpec) (base : Option UInt64) (single : Bool) : Slot UInt64 :=
  if spec.allPage then .ofOption base
  else if single then .cleared
  else .set (base.getD spec.offset)

def assembledLimit (spec : QuerySpec) (base : Option UInt64) (single : Bool) : Slot UInt64 :=
  if spec.allPage then .ofOption base
  else if single then .cleared
  else .set (base.getD spec.perPage)

/-- The order of a descriptor, given the order of its base.  The tokens are looked
at only if neither a single row nor the base settles the order. -/
def assembledOrder (catalog : Catalog) (spec : QuerySpec) (base : Option (List OrderTerm))
    (single : Bool) : Except LookupFailure (Slot (List OrderTerm) × List Diagnostic) :=
  if single then
    .ok (.cleared, [])
  else
    match base with
    | some order => .ok (.set order, [])
    | none => do
        let (order, diagnostics) ← resolveOrder catalog spec.orderBy
        return (.set order, diagnostics)

/-- A list that leaves its place empty when it has no items. -/
def nonEmptyList? {α : Type} : List α → Option (List α)
  | [] => none
  | items => some items

/-- Merge a specification onto a base descriptor, for one row only if `single`
says so.  The diagnostics tell what was dropped or weakened. -/
def assemble (context : Context) (spec : QuerySpec) (base : BaseDescriptor) (single : Bool) :
    Except CompileError (Descriptor × List Diagnostic) := do
  let (order, orderDiagnostics) ←
    (assembledOrder context.catalog spec base.order single).mapError .configuration
  let (includes, expandDiagnostics) ← resolveEntries context spec.expands
  let condition ←
    (Filter.compose context.translator base.condition spec.filter
      spec.additionalFilter).mapError .filter
  let (reserved, options) := base.options.partition fun option => isReservedKey option.1
  return (
    { offset := assembledOffset spec base.offset single
      limit := assembledLimit spec base.limit single
      order := order
      includes := base.includes ++ includes
      attributes := nonEmptyList? (base.attributes ++ spec.attributes)
      condition := condition
      options := options },
    orderDiagnostics ++ expandDiagnostics ++
      reserved.map fun option => .reservedOption option.1)

/-- The descriptor of a specification by itself. -/
def compile (context : Context) (spec : QuerySpec) : Except CompileError Descriptor :=
  (assemble context spec .empty false).map Prod.fst

end QueryCompiler
