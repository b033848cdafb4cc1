import QueryCompiler.Compile.Assemble

/-!
# Context cells

A cell holds at most one context.  The first one that is stored stays.
-/

namespace QueryCompiler

structure ContextCell where
  stored : Option Context

/-- Why a cell refused an operation. -/
inductive ContextError where
  | alreadyInitialized
  | notInitialized
  deriving DecidableEq, Repr

def ContextError.message : ContextError → String
  | .alreadyInitialized => "Query context already initialized"
  | .notInitialized => "Query context not initialized"

namespace ContextCell

def empty : ContextCell := ⟨none⟩

def init (cell : ContextCell) (context : Context) : Except ContextError ContextCell :=
  match cell.stored with
  | some _ => .error .alreadyInitialized
  | none => .ok ⟨some context⟩

def get (cell : ContextCell) : Except ContextError Context :=
  match cell.stored with
  | some context => .ok context
  | none => .error .notInitialized

def isInitialized (cell : ContextCell) : Bool :=
  cell.stored.isSome

end ContextCell

end QueryCompiler
