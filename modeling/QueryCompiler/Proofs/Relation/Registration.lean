import Mathlib.Data.Set.Card
import QueryCompiler.Relation.Registry

/-!
# Registering relations

A relation that is registered answers for its key and its aliases, over whatever answered for
them before.  After any sequence of registrations a name therefore stands for the last relation
of the sequence with that name (`lookup_registerAll_of_last`), and for what it stood for at the
start if there is none.  As no name comes twice, a registry has as many entries as there are
names with an answer.
-/

namespace QueryCompiler

/-- A relation has a name as its key or among its aliases. -/
def HasName (relation : String × RelationDefinition) (name : String) : Prop :=
  name = relation.1 ∨ name ∈ relation.2.aliases

instance (relation : String × RelationDefinition) (name : String) :
    Decidable (HasName relation name) :=
  inferInstanceAs (Decidable (_ ∨ _))

/-- A relation is the last one of a list that has a name. -/
def LastNamed (name : String) (relation : String × RelationDefinition)
    (relations : List (String × RelationDefinition)) : Prop :=
  ∃ before after, relations = before ++ relation :: after ∧ HasName relation name ∧
    ∀ later ∈ after, ¬ HasName later name

theorem lastNamed_cons_iff {name : String} {relation head : String × RelationDefinition}
    {tail : List (String × RelationDefinition)} :
    LastNamed name relation (head :: tail) ↔
      (head = relation ∧ HasName relation name ∧ ∀ later ∈ tail, ¬ HasName later name) ∨
        LastNamed name relation tail := by
  constructor
  · rintro ⟨before, after, equality, named, unnamed⟩
    rcases List.cons_eq_append_iff.mp equality with ⟨rfl, same⟩ | ⟨before, rfl, rfl⟩
    · injection same with heads tails
      exact .inl ⟨heads.symm, named, tails ▸ unnamed⟩
    · exact .inr ⟨before, after, rfl, named, unnamed⟩
  · rintro (⟨rfl, named, unnamed⟩ | ⟨before, after, rfl, named, unnamed⟩)
    · exact ⟨[], tail, rfl, named, unnamed⟩
    · exact ⟨head :: before, after, rfl, named, unnamed⟩

namespace Registry

/-! ## Answers -/

private theorem registerAll_cons (registry : Registry) (relation : String × RelationDefinition)
    (relations : List (String × RelationDefinition)) :
    registry.registerAll (relation :: relations) =
      (registry.register relation.1 relation.2).registerAll relations := rfl

private theorem lookup_register_of_hasName (registry : Registry) {name : String}
    {relation : String × RelationDefinition} (named : HasName relation name) :
    (registry.register relation.1 relation.2).lookup name = some relation.2.handle :=
  (lookup_register registry relation.1 relation.2 name).trans (if_pos named)

private theorem lookup_register_of_not_hasName (registry : Registry) {name : String}
    {relation : String × RelationDefinition} (unnamed : ¬ HasName relation name) :
    (registry.register relation.1 relation.2).lookup name = registry.lookup name :=
  (lookup_register registry relation.1 relation.2 name).trans (if_neg unnamed)

theorem lookup_registerAll_of_unnamed (registry : Registry) {name : String}
    {relations : List (String × RelationDefinition)}
    (unnamed : ∀ relation ∈ relations, ¬ HasName relation name) :
    (registry.registerAll relations).lookup name = registry.lookup name := by
  induction relations generalizing registry with
  | nil => rfl
  | cons relation relations inductionHypothesis =>
      obtain ⟨first, rest⟩ := List.forall_mem_cons.mp unnamed
      rw [registerAll_cons, inductionHypothesis _ rest, lookup_register_of_not_hasName _ first]

/-- A name stands for the last relation that was registered with it. -/
theorem lookup_registerAll_of_last (registry : Registry) {name : String}
    {last : String × RelationDefinition} {relations : List (String × RelationDefinition)}
    (isLast : LastNamed name last relations) :
    (registry.registerAll relations).lookup name = some last.2.handle := by
  induction relations generalizing registry with
  | nil =>
      obtain ⟨before, after, equality, _⟩ := isLast
      simp at equality
  | cons relation relations inductionHypothesis =>
      rw [registerAll_cons]
      rcases lastNamed_cons_iff.mp isLast with ⟨rfl, named, unnamed⟩ | later
      · rw [lookup_registerAll_of_unnamed _ unnamed, lookup_register_of_hasName _ named]
      · exact inductionHypothesis _ later

/-- What is registered does not depend on the version. -/
theorem entries_registerAll_congr {registry other : Registry}
    (same : registry.entries = other.entries) (relations : List (String × RelationDefinition)) :
    (registry.registerAll relations).entries = (other.registerAll relations).entries := by
  induction relations generalizing registry other with
  | nil => exact same
  | cons relation relations inductionHypothesis =>
      exact inductionHypothesis (congrArg (bind _ _) same)

theorem contains_iff {registry : Registry} {name : String} :
    registry.contains name = true ↔ ∃ handle, registry.lookup name = some handle :=
  Option.isSome_iff_exists

/-! ## Names that are there once -/

/-- No name comes twice in a registry. -/
def Distinct (registry : Registry) : Prop :=
  (registry.entries.map Prod.fst).Nodup

theorem distinct_empty (version : String) : (empty version).Distinct :=
  List.nodup_nil

private theorem nodup_keys_bind (handle : RelationHandle) (names : List String)
    {entries : List (String × RelationHandle)} (nodup : (entries.map Prod.fst).Nodup) :
    ((bind handle names entries).map Prod.fst).Nodup := by
  induction names generalizing entries with
  | nil => exact nodup
  | cons name names inductionHypothesis =>
      exact inductionHypothesis (Json.nodup_keys_setMember name handle nodup)

theorem Distinct.register {registry : Registry} (distinct : registry.Distinct) (key : String)
    (definition : RelationDefinition) : (registry.register key definition).Distinct :=
  nodup_keys_bind definition.handle (definition.aliases ++ [key]) distinct

theorem Distinct.registerAll {registry : Registry} (distinct : registry.Distinct)
    (relations : List (String × RelationDefinition)) :
    (registry.registerAll relations).Distinct := by
  induction relations generalizing registry with
  | nil => exact distinct
  | cons relation relations inductionHypothesis =>
      exact inductionHypothesis (distinct.register relation.1 relation.2)

/-- A registry has as many entries as there are names with an answer. -/
theorem Distinct.encard_answered {registry : Registry} (distinct : registry.Distinct) :
    {name | ∃ handle, registry.lookup name = some handle}.encard = registry.size := by
  have answered : {name | ∃ handle, registry.lookup name = some handle} =
      ((registry.entries.map Prod.fst).toFinset : Set String) := by
    ext name
    simp [lookup, ← Option.isSome_iff_exists, List.lookup_isSome_iff]
  rw [answered, Set.encard_coe_eq_coe_finsetCard, List.toFinset_card_of_nodup distinct,
    List.length_map, size]

end Registry

end QueryCompiler
