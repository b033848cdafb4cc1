import QueryCompiler.Json.Reader
import QueryCompiler.Relation.Basic

/-!
# Registries of relations

A registry maps names to handles.  Registering a relation writes its aliases and
then its key, each over whatever the name stood for before.

The compiler only sees a `Catalog`, a lookup that may also fail.
-/

namespace QueryCompiler

open Json

/-- Why a lookup was not answered: the registry has a reason of its own, or it could not read
what it takes the relations from. -/
inductive LookupFailure where
  | unanswered (key reason : String)
  | unreadable (reason : String)
  | yaml (reason : String)
  | json (reason : String)
  deriving DecidableEq, Repr

def LookupFailure.message : LookupFailure → String
  | .unanswered key reason => "Registry lookup failed for " ++ key ++ ": " ++ reason
  | .unreadable reason => "Failed to read registry file: " ++ reason
  | .yaml reason => "Failed to parse registry YAML: " ++ reason
  | .json reason => "Failed to parse registry JSON: " ++ reason

/-- Relations as the compiler sees them.  An unknown key is no failure. -/
abbrev Catalog := String → Except LookupFailure (Option RelationHandle)

/-- Names and the handles they stand for; no name occurs twice. -/
structure Registry where
  entries : List (String × RelationHandle)
  version : String
  deriving Repr

namespace Registry

def defaultVersion : String := "0.1.0"

def empty (version : String) : Registry :=
  ⟨[], version⟩

/-- Let names stand for a handle, one after another. -/
def bind (handle : RelationHandle) (names : List String)
    (entries : List (String × RelationHandle)) : List (String × RelationHandle) :=
  names.foldl (fun entries name => setMember name handle entries) entries

/-- Register a relation under its aliases and its key. -/
def register (registry : Registry) (key : String) (definition : RelationDefinition) :
    Registry :=
  { registry with
    entries := bind definition.handle (definition.aliases ++ [key]) registry.entries }

def registerAll (registry : Registry) (relations : List (String × RelationDefinition)) :
    Registry :=
  relations.foldl (fun registry relation => registry.register relation.1 relation.2) registry

def lookup (registry : Registry) (key : String) : Option RelationHandle :=
  registry.entries.lookup key

/-- A name that was bound stands for the handle, and every other name for what it
stood for before. -/
theorem lookup_bind (handle : RelationHandle) (names : List String)
    (entries : List (String × RelationHandle)) (key : String) :
    (bind handle names entries).lookup key =
      if key ∈ names then some handle else entries.lookup key := by
  induction names generalizing entries with
  | nil => simp [bind]
  | cons name names inductionHypothesis =>
      have step : bind handle (name :: names) entries =
          bind handle names (setMember name handle entries) := rfl
      rw [step, inductionHypothesis, lookup_setMember]
      grind

/-- A registered relation is found under its key and its aliases. -/
theorem lookup_register (registry : Registry) (key : String) (definition : RelationDefinition)
    (name : String) :
    (registry.register key definition).lookup name =
      if name = key ∨ name ∈ definition.aliases then some definition.handle
      else registry.lookup name := by
  simp [register, lookup, lookup_bind, or_comm]

def contains (registry : Registry) (key : String) : Bool :=
  (registry.lookup key).isSome

def size (registry : Registry) : Nat :=
  registry.entries.length

/-- The registry as the compiler sees it; it answers every lookup. -/
def catalog (registry : Registry) : Catalog :=
  fun key => .ok (registry.lookup key)

/-! ## Registry documents -/

/-- A registry document: an optional version, and relations in increasing order
of their keys. -/
structure Document where
  version : Option String
  relations : List (String × RelationDefinition)

/-- Put a relation in its place among relations in increasing order of keys, over
one with the same key. -/
def insertSorted {α : Type} (key : String) (value : α) : List (String × α) → List (String × α)
  | [] => [(key, value)]
  | (other, found) :: rest =>
      if key < other then (key, value) :: (other, found) :: rest
      else if key = other then (key, value) :: rest
      else (other, found) :: insertSorted key value rest

/-- Pairs in increasing order of keys, of repeated keys the last. -/
def sortPairs {α : Type} (pairs : List (String × α)) : List (String × α) :=
  pairs.foldl (fun sorted pair => insertSorted pair.1 pair.2 sorted) []

def ofDocument (document : Document) : Registry :=
  (empty (document.version.getD defaultVersion)).registerAll document.relations

def documentShape (source : Source) : RecordShape Document Document where
  name := "RegistryFile"
  fields := ["version", "relations"]
  empty := ⟨none, []⟩
  set key draft partly :=
    match key with
    | "version" => do return { partly with version := ← decodeOption decodeString draft }
    | _ => do
        let pairs ← decodeMap (RelationDefinition.decode source) draft
        return { partly with relations := sortPairs pairs }
  finish := .ok

def ofJsonText (text : String) : Except ReadError Registry :=
  (decodeText ((documentShape .text).decode .text) text).map ofDocument

end Registry

end QueryCompiler
