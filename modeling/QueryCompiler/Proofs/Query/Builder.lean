import Mathlib
import QueryCompiler.Proofs.Query.Normal
import QueryCompiler.Query.Builder

/-!
# Builders and raw input

The arguments of the steps of a builder can be given as raw input: under its key the
last argument of each setter, and the associations as a list.  A builder and raw input
then ask for the same, except that raw input leaves out empty names of attributes, and
a builder keeps them.
-/

namespace QueryCompiler.QueryBuilder

open Json

/-! ## The arguments of steps as raw input -/

/-- The member that holds the argument of a setter. -/
def Step.member? : Step → Option (String × Json)
  | .filter expression => some ("filter", expression)
  | .additionalFilter expression => some ("additionalFilter", expression)
  | .attributes names => some ("attributes", ofStrings names)
  | .page chosen => some ("page", ofUInt64 chosen)
  | .perPage chosen => some ("perPage", ofUInt64 chosen)
  | .allPage all => some ("allPage", .bool all)
  | .orderBy tokens => some ("orderBy", ofStrings tokens)
  | .expand _ => none

/-- The association that a step adds. -/
def Step.entry? : Step → Option ExpandEntry
  | .expand entry => some entry
  | _ => none

/-- The attributes that a step sets. -/
def Step.attributes? : Step → Option (List String)
  | .attributes names => some names
  | _ => none

/-- The attributes that were set last. -/
def lastAttributes (all : List Step) : List String :=
  (all.filterMap Step.attributes?).getLast?.getD []

/-- The last argument of each setter that was called. -/
def lastArguments (all : List Step) : Members :=
  distinctMembers (all.filterMap Step.member?)

/-- Raw input with the last argument of each setter, and with associations. -/
def rawInput (all : List Step) (associations : List Json) : Json :=
  .object (lastArguments all ++ [("expands", .array associations)])

/-! ## What a builder was told -/

theorem steps_cons (builder : QueryBuilder) (step : Step) (all : List Step) :
    builder.steps (step :: all) = (builder.step step).steps all := rfl

/-- What a builder holds is what members say, up to what counts as missing. -/
structure Told (members : Members) (builder : QueryBuilder) : Prop where
  filter : members.lookup "filter" = builder.filter
  additionalFilter : members.lookup "additionalFilter" = builder.additionalFilter
  attributes : stringList (members.lookup "attributes") =
    builder.attributes.filter fun name => !name.isEmpty
  page : members.lookup "page" = builder.page.map ofUInt64
  perPage : members.lookup "perPage" = builder.perPage.map ofUInt64
  allPage : ((members.lookup "allPage").bind bool?).getD false = builder.allPage
  orderBy : stringList (members.lookup "orderBy") =
    builder.orderBy.filter fun token => !token.isEmpty
  expands : members.lookup "expands" = none

namespace Told

variable {members : Members} {builder : QueryBuilder}

private theorem nothing : Told [] empty := by
  constructor <;> rfl

/-- A setter writes its argument over the one before, and leaves the others. -/
theorem setter (told : Told members builder) {step : Step} {key : String} {value : Json}
    (argument : step.member? = some (key, value)) :
    Told (setMember key value members) (builder.step step) := by
  obtain ⟨filter, additionalFilter, attributes, page, perPage, allPage, orderBy, expands⟩ := told
  -- Of the fields of the invariant, the one of the setter reads the new member.
  cases step <;> cases argument <;>
    constructor <;>
      simp [lookup_setMember, QueryBuilder.step, stringList_ofStrings, bool?, filter,
        additionalFilter, attributes, page, perPage, allPage, orderBy, expands]

/-- An association is no argument of a setter. -/
theorem added (told : Told members builder) (entry : ExpandEntry) :
    Told members (builder.step (.expand entry)) :=
  { told with }

private theorem steps (told : Told members builder) (all : List Step) :
    Told ((all.filterMap Step.member?).foldl
      (fun members member => setMember member.1 member.2 members) members)
      (builder.steps all) := by
  induction all generalizing members builder with
  | nil => exact told
  | cons step all inductionHypothesis =>
      rw [steps_cons]
      cases argument : step.member? with
      | some member =>
          rw [List.filterMap_cons_some argument]
          exact inductionHypothesis (told.setter argument)
      | none =>
          rw [List.filterMap_cons_none argument]
          cases step with
          | expand entry => exact inductionHypothesis (told.added entry)
          | _ => cases argument

end Told

private theorem told_lastArguments (all : List Step) : Told (lastArguments all) (empty.steps all) :=
  Told.nothing.steps all

private theorem expands_steps (builder : QueryBuilder) (all : List Step) :
    (builder.steps all).expands = builder.expands ++ all.filterMap Step.entry? := by
  induction all generalizing builder with
  | nil => simp [QueryBuilder.steps]
  | cons step all inductionHypothesis =>
      rw [steps_cons, inductionHypothesis]
      cases step <;> simp [QueryBuilder.step, Step.entry?, List.filterMap_cons]

private theorem attributes_steps (builder : QueryBuilder) (all : List Step) :
    (builder.steps all).attributes =
      (all.filterMap Step.attributes?).getLast?.getD builder.attributes := by
  induction all generalizing builder with
  | nil => rfl
  | cons step all inductionHypothesis =>
      rw [steps_cons, inductionHypothesis]
      cases step with
      | attributes names => simp [QueryBuilder.step, Step.attributes?, List.getLast?_cons]
      | _ => simp [QueryBuilder.step, Step.attributes?, List.filterMap_cons]

/-! ## What is built -/

theorem getD_filter_positive (chosen : Option UInt64) (default : UInt64) :
    ((chosen.map ofUInt64).bind positiveNumber?).getD default =
      (chosen.filter fun number => 1 ≤ number).getD default := by
  cases chosen with
  | none => rfl
  | some chosen => rfl

/-- Apart from the attributes, a builder that was told what members say builds what
they ask for. -/
theorem Told.build {members : Members} {builder : QueryBuilder} (told : Told members builder)
    {associations : List Json} (added : builder.expands = associations.map ExpandEntry.ofJson) :
    QuerySpec.ofJson (.object (members ++ [("expands", .array associations)])) =
      { builder.build with
        attributes := builder.attributes.filter fun name => !name.isEmpty } := by
  have lookup {key : String} (different : key ≠ "expands") :
      (members ++ [("expands", Json.array associations)]).lookup key = members.lookup key := by
    have absent : (key == "expands") = false := beq_eq_false_iff_ne.mpr different
    simp [List.lookup_append, List.lookup_cons, absent]
  have entries : (members ++ [("expands", Json.array associations)]).lookup "expands" =
      some (.array associations) := by
    simp [List.lookup_append, told.expands]
  simp [QuerySpec.ofJson, QueryBuilder.build, lookup, entries, filterOrEmpty, told.filter,
    told.additionalFilter, told.attributes, told.page, told.perPage, told.allPage, told.orderBy,
    getD_filter_positive, ExpandEntry.ofList, ExpandEntry.ofItems_eq_map, added]

/-- A builder and raw input that is told the same ask for the same, except for attributes
with an empty name: raw input leaves them out, and a builder keeps them. -/
theorem build_steps_eq_ofJson_iff {all : List Step} {associations : List Json}
    (added : all.filterMap Step.entry? = associations.map ExpandEntry.ofJson) :
    let built := (empty.steps all).build
    let asked := QuerySpec.ofJson (rawInput all associations)
    built = { asked with attributes := lastAttributes all } ∧
      (built = asked ↔ "" ∉ lastAttributes all) := by
  intro built asked
  have entries : (empty.steps all).expands = associations.map ExpandEntry.ofJson :=
    (expands_steps empty all).trans added
  have attributes : built.attributes = lastAttributes all := attributes_steps empty all
  have agreed : asked =
      { built with attributes := built.attributes.filter fun name => !name.isEmpty } :=
    (told_lastArguments all).build entries
  rw [← attributes]
  refine ⟨by rw [agreed], ?_⟩
  constructor
  · intro same member
    have kept : built.attributes = built.attributes.filter fun name => !name.isEmpty :=
      congrArg QuerySpec.attributes (same.trans agreed)
    rw [kept] at member
    simpa using (List.mem_filter.mp member).2
  · intro absent
    have present : ∀ name ∈ built.attributes, name ≠ "" := by
      intro name member empty
      exact absent (empty ▸ member)
    rw [agreed, filter_nonEmpty_eq_self present]

/-- Steps of every kind, with an empty name of an attribute that is taken back. -/
theorem build_eq_ofJson_of_replaced_attributes :
    let all : List Step := [.attributes ["", "id"], .page 0, .expand (.name "owner"),
      .filter .null, .orderBy ["", "-age"], .allPage true, .attributes ["id"], .perPage 5,
      .additionalFilter (.string "tenant"), .expand (.invalid (.bool true)), .allPage false]
    let associations : List Json := [.string "owner", .bool true]
    all.filterMap Step.entry? = associations.map ExpandEntry.ofJson ∧
      (empty.steps all).build = QuerySpec.ofJson (rawInput all associations) := by
  intro all associations
  have added : all.filterMap Step.entry? = associations.map ExpandEntry.ofJson := by rfl
  have present : "" ∉ lastAttributes all := by decide
  exact ⟨added, (build_steps_eq_ofJson_iff added).2.mpr present⟩

/-- An empty name of an attribute is kept by a builder, and left out of raw input. -/
theorem build_ne_ofJson_of_empty_attribute :
    let all : List Step := [.attributes ["", "id"]]
    (empty.steps all).build ≠ QuerySpec.ofJson (rawInput all []) := by
  intro all same
  have kept : (QuerySpec.ofJson (rawInput all [])).attributes = ["", "id"] :=
    (congrArg QuerySpec.attributes same).symm
  have dropped : (QuerySpec.ofJson (rawInput all [])).attributes = ["id"] := by cbv
  rw [dropped] at kept
  exact absurd kept (by decide)

end QueryCompiler.QueryBuilder
