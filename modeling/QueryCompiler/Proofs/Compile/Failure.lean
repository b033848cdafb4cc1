import QueryCompiler.Compile.Assemble
import QueryCompiler.Proofs.Outcome

/-!
# Why nothing was compiled

An assembly consults the catalog and the translator, and fails exactly when one of them
does: first for the relations of the order, then for the associations, then for the
filter, and last for the additional filter.  An order that a single row or the base
settles is not looked up, and nothing of an association is consulted unless its target
is known.  Nothing else is an error: writing an entry into a diagnostic always succeeds,
since the keys of its objects are texts, so `serialize` is not among what is raised.
-/

namespace QueryCompiler

open Outcome

/-- A failure of a lookup in the catalog. -/
def Catalog.Raises (catalog : Catalog) (failure : LookupFailure) : Prop :=
  ∃ key, catalog key = .error failure

/-- An error of the catalog or of the translator. -/
inductive Context.Raises (context : Context) : CompileError → Prop
  | lookup {failure : LookupFailure} (raised : context.catalog.Raises failure) :
      Raises context (.configuration failure)
  | translation {expression : Json} {error : FilterError}
      (failed : context.translator expression = .error error) : Raises context (.filter error)

/-! ## Failures of what is consulted -/

/-- The failure of the lookup that a sort token asks for.  A token that is not read or
names no relation asks for none, and an unknown relation is no failure. -/
def lookupFailure? (catalog : Catalog) (token : String) : Option LookupFailure :=
  match SortToken.parse token with
  | .ok ⟨_, some relation, _⟩ => error? (catalog relation)
  | _ => none

/-- The first failure among the lookups of sort tokens. -/
def tokensFailure? (catalog : Catalog) (tokens : List String) : Option LookupFailure :=
  tokens.findSome? (lookupFailure? catalog)

/-- The failure of looking up keys one after another until one of them is known. -/
def targetFailure? (catalog : Catalog) : List String → Option LookupFailure
  | [] => none
  | key :: keys =>
      match catalog key with
      | .error failure => some failure
      | .ok (some _) => none
      | .ok none => targetFailure? catalog keys

/-- Whether one of some keys is known. -/
def Catalog.knows (catalog : Catalog) (keys : List String) : Bool :=
  keys.any fun key => (catalog key).toOption.join.isSome

/-- The error of a condition, if there is one. -/
def conditionFailure? (translator : FilterTranslator) (expression : Option Json) :
    Option FilterError :=
  expression.bind fun value => error? (translator value)

mutual

/-- The first failure of what an association consults: its target, and if that is known
its condition, its order and its own associations. -/
def entryFailure? (context : Context) : ExpandEntry → Option CompileError
  | .name _ => none
  | .invalid _ => none
  | .request request nested =>
      match request.name with
      | none => none
      | some name =>
          let keys := request.modelName.toList ++ [name]
          ((targetFailure? context.catalog keys).map .configuration).or <|
            if context.catalog.knows keys then
              ((conditionFailure? context.translator request.condition).map .filter).or <|
                ((tokensFailure? context.catalog request.order).map .configuration).or <|
                  entriesFailure? context nested
            else
              none

def entriesFailure? (context : Context) : List ExpandEntry → Option CompileError
  | [] => none
  | entry :: entries => (entryFailure? context entry).or (entriesFailure? context entries)

end

/-- The first failure among the lookups of an order, unless a single row or the base
settles the order. -/
def orderFailure? (catalog : Catalog) (spec : QuerySpec) (base : BaseDescriptor)
    (single : Bool) : Option LookupFailure :=
  if single || base.order.isSome then none else tokensFailure? catalog spec.orderBy

/-- The first failure of what an assembly consults. -/
def firstFailure? (context : Context) (spec : QuerySpec) (base : BaseDescriptor)
    (single : Bool) : Option CompileError :=
  ((orderFailure? context.catalog spec base single).map .configuration).or <|
    (entriesFailure? context spec.expands).or <|
      ((error? (context.translator spec.filter)).map .filter).or <|
        (error? (context.translator spec.additionalFilter)).map .filter

/-! ## Orders -/

theorem lookupFailure?_eq_some_iff {catalog : Catalog} {token : String}
    {failure : LookupFailure} :
    lookupFailure? catalog token = some failure ↔
      ∃ direction relation column,
        SortToken.parse token = .ok ⟨direction, some relation, column⟩ ∧
          catalog relation = .error failure := by
  unfold lookupFailure?
  split
  case h_1 direction relation column parsed =>
    rw [error?_eq_some_iff]
    constructor
    · intro failed
      exact ⟨direction, relation, column, parsed, failed⟩
    · rintro ⟨_, _, _, same, failed⟩
      cases parsed.symm.trans same
      exact failed
  case h_2 other =>
    constructor
    · intro failed
      cases failed
    · rintro ⟨direction, relation, column, parsed, _⟩
      exact absurd parsed (other direction relation column)

theorem exists_tokensFailure?_iff {catalog : Catalog} {tokens : List String} :
    (∃ failure, tokensFailure? catalog tokens = some failure) ↔
      ∃ token ∈ tokens, ∃ failure, lookupFailure? catalog token = some failure := by
  simp only [← Option.isSome_iff_exists, tokensFailure?, List.findSome?_isSome_iff]

private theorem error?_resolveToken (catalog : Catalog) (token : String) :
    error? (resolveToken catalog token) = lookupFailure? catalog token := by
  unfold resolveToken lookupFailure?
  split
  case h_1 refused => simp [refused]
  case h_2 parsed => simp [parsed]
  case h_3 direction relation column parsed =>
    rw [parsed]
    apply error?_bind_of_ok
    intro found _
    cases found with
    | none => rfl
    | some handle => rfl

theorem findSome?_cons_eq_or {α β : Type} (find : α → Option β) (item : α) (items : List α) :
    (item :: items).findSome? find = (find item).or (items.findSome? find) := by
  rw [List.findSome?_cons]
  cases find item with
  | none => rfl
  | some found => rfl

theorem error?_resolveOrder (catalog : Catalog) (tokens : List String) :
    error? (resolveOrder catalog tokens) = tokensFailure? catalog tokens := by
  induction tokens with
  | nil => rfl
  | cons token tokens inductionHypothesis =>
      have outcome : error? (resolveOrder catalog (token :: tokens)) =
          (error? (resolveToken catalog token)).or (error? (resolveOrder catalog tokens)) := by
        apply error?_bind
        intro resolved _
        apply error?_bind_of_ok
        intro rest _
        rfl
      rw [outcome, error?_resolveToken, inductionHypothesis, tokensFailure?, tokensFailure?,
        findSome?_cons_eq_or]

private theorem error?_assembledOrder (catalog : Catalog) (spec : QuerySpec) (base : BaseDescriptor)
    (single : Bool) :
    error? (assembledOrder catalog spec base.order single) =
      orderFailure? catalog spec base single := by
  unfold assembledOrder orderFailure?
  cases single with
  | true => rfl
  | false =>
      cases base.order with
      | some order => rfl
      | none =>
          have resolved := error?_resolveOrder catalog spec.orderBy
          refine Eq.trans ?_ resolved
          apply error?_bind_of_ok
          intro order _
          rfl

/-! ## Associations -/

theorem error?_resolveTarget (catalog : Catalog) (keys : List String) :
    error? (resolveTarget catalog keys) = targetFailure? catalog keys := by
  induction keys with
  | nil => rfl
  | cons key keys inductionHypothesis =>
      rw [resolveTarget, targetFailure?]
      cases catalog key with
      | error failure => rfl
      | ok found =>
          cases found with
          | none => exact inductionHypothesis
          | some handle => rfl

theorem isSome_of_resolveTarget {catalog : Catalog} {keys : List String}
    {found : Option (String × RelationHandle)}
    (resolved : resolveTarget catalog keys = .ok found) : found.isSome = catalog.knows keys := by
  induction keys with
  | nil =>
      cases resolved
      rfl
  | cons key keys inductionHypothesis =>
      obtain ⟨answer, answered, rest⟩ := bind_eq_ok.mp resolved
      rw [Catalog.knows, List.any_cons, answered]
      cases answer with
      | none => exact inductionHypothesis rest
      | some handle =>
          cases rest
          rfl

private theorem error?_resolveCondition (translator : FilterTranslator) (expression : Option Json) :
    error? (resolveCondition translator expression) = conditionFailure? translator expression := by
  cases expression with
  | none => rfl
  | some value =>
      rw [conditionFailure?, Option.bind_some]
      cases translated : translator value with
      | error error => simp [resolveCondition, translated]
      | ok predicate => simp [resolveCondition, translated]

theorem conditionFailure?_eq_some_iff {translator : FilterTranslator} {expression : Option Json}
    {error : FilterError} :
    conditionFailure? translator expression = some error ↔
      ∃ value, expression = some value ∧ translator value = .error error := by
  simp [conditionFailure?, Option.bind_eq_some_iff, error?_eq_some_iff]

mutual

private theorem error?_resolveEntry (context : Context) :
    ∀ entry : ExpandEntry, error? (resolveEntry context entry) = entryFailure? context entry
  | .name _ => rfl
  | .invalid _ => rfl
  | .request request nested => by
      rw [resolveEntry, entryFailure?]
      cases request.name with
      | none => rfl
      | some name =>
          dsimp only
          rw [← error?_resolveTarget, ← error?_mapError]
          apply error?_bind
          intro found answered
          rw [← isSome_of_resolveTarget (mapError_eq_ok.mp answered)]
          cases found with
          | none => rfl
          | some target =>
              have entries := error?_resolveEntries context nested
              rw [Option.isSome_some, if_pos rfl, ← error?_resolveCondition,
                ← error?_resolveOrder, ← entries, ← error?_mapError, ← error?_mapError]
              apply error?_bind
              intro condition _
              apply error?_bind
              intro order _
              apply error?_bind_of_ok
              intro includes _
              rfl

theorem error?_resolveEntries (context : Context) :
    ∀ entries : List ExpandEntry,
      error? (resolveEntries context entries) = entriesFailure? context entries
  | [] => rfl
  | entry :: entries => by
      rw [entriesFailure?, ← error?_resolveEntry context entry,
        ← error?_resolveEntries context entries]
      apply error?_bind
      intro resolved _
      apply error?_bind_of_ok
      intro rest _
      rfl

end

/-! ## Filters -/

private theorem error?_compose (translator : FilterTranslator) (base : Option Predicate)
    (filter additional : Json) :
    error? (Filter.compose translator base filter additional) =
      (error? (translator filter)).or (error? (translator additional)) := by
  apply error?_bind
  intro translated _
  apply error?_bind_of_ok
  intro restriction _
  rfl

private theorem error?_assemble (context : Context) (spec : QuerySpec) (base : BaseDescriptor)
    (single : Bool) :
    error? (assemble context spec base single) = firstFailure? context spec base single := by
  have filters : error? ((Filter.compose context.translator base.condition spec.filter
      spec.additionalFilter).mapError CompileError.filter) =
        ((error? (context.translator spec.filter)).map .filter).or
          ((error? (context.translator spec.additionalFilter)).map .filter) := by
    rw [error?_mapError, error?_compose, Option.map_or]
  have order : error? ((assembledOrder context.catalog spec base.order single).mapError
      CompileError.configuration) =
        (orderFailure? context.catalog spec base single).map .configuration := by
    rw [error?_mapError, error?_assembledOrder]
  have entries := error?_resolveEntries context spec.expands
  rw [firstFailure?, ← order, ← entries, ← filters]
  apply error?_bind
  intro assembled _
  apply error?_bind
  intro includes _
  apply error?_bind_of_ok
  intro condition _
  rfl

/-! ## Failures come from the catalog or the translator -/

private theorem raises_of_lookupFailure? {catalog : Catalog} {token : String}
    {failure : LookupFailure}
    (failed : lookupFailure? catalog token = some failure) : catalog.Raises failure := by
  obtain ⟨_, relation, _, _, raised⟩ := lookupFailure?_eq_some_iff.mp failed
  exact ⟨relation, raised⟩

private theorem raises_of_tokensFailure? {catalog : Catalog} {tokens : List String}
    {failure : LookupFailure} (failed : tokensFailure? catalog tokens = some failure) :
    catalog.Raises failure := by
  obtain ⟨token, _, lookup⟩ := List.exists_of_findSome?_eq_some failed
  exact raises_of_lookupFailure? lookup

private theorem raises_of_orderFailure? {catalog : Catalog} {spec : QuerySpec}
    {base : BaseDescriptor}
    {single : Bool} {failure : LookupFailure}
    (failed : orderFailure? catalog spec base single = some failure) : catalog.Raises failure := by
  unfold orderFailure? at failed
  split at failed
  · cases failed
  · exact raises_of_tokensFailure? failed

private theorem raises_of_targetFailure? {catalog : Catalog} {keys : List String}
    {failure : LookupFailure} (failed : targetFailure? catalog keys = some failure) :
    catalog.Raises failure := by
  induction keys with
  | nil => cases failed
  | cons key keys inductionHypothesis =>
      rw [targetFailure?] at failed
      split at failed
      case h_1 raised answered =>
        cases failed
        exact ⟨key, answered⟩
      case h_2 => cases failed
      case h_3 => exact inductionHypothesis failed

namespace Context.Raises

variable {context : Context} {error : CompileError}

/-- Neither of them is about writing. -/
theorem ne_serialize (raised : context.Raises error) (reason : String) :
    error ≠ .serialize reason := by
  rintro rfl
  cases raised

private theorem of_lookup {failure : Option LookupFailure}
    (raised : ∀ raised, failure = some raised → context.catalog.Raises raised)
    (failed : failure.map .configuration = some error) : context.Raises error := by
  obtain ⟨found, present, rfl⟩ := Option.map_eq_some_iff.mp failed
  exact .lookup (raised found present)

private theorem of_translation {expression : Json}
    (failed : (error? (context.translator expression)).map .filter = some error) :
    context.Raises error := by
  obtain ⟨found, present, rfl⟩ := Option.map_eq_some_iff.mp failed
  exact .translation (error?_eq_some_iff.mp present)

private theorem of_condition {expression : Option Json}
    (failed : (conditionFailure? context.translator expression).map .filter = some error) :
    context.Raises error := by
  obtain ⟨raised, condition, rfl⟩ := Option.map_eq_some_iff.mp failed
  obtain ⟨expression, _, refused⟩ := conditionFailure?_eq_some_iff.mp condition
  exact .translation refused

/-- A failure that one of two stages gives. -/
theorem of_or {first second : Option CompileError}
    (ofFirst : first = some error → context.Raises error)
    (ofSecond : second = some error → context.Raises error)
    (failed : first.or second = some error) : context.Raises error := by
  rcases Option.or_eq_some_iff.mp failed with failed | ⟨_, failed⟩
  · exact ofFirst failed
  · exact ofSecond failed

end Context.Raises

variable {context : Context} {error : CompileError}

mutual

private theorem raises_of_entryFailure? :
    ∀ {entry : ExpandEntry}, entryFailure? context entry = some error → context.Raises error
  | .name _ => nofun
  | .invalid _ => nofun
  | .request request nested => by
      rw [entryFailure?]
      cases request.name with
      | none => exact nofun
      | some name =>
          apply Context.Raises.of_or
          · exact .of_lookup fun _ => raises_of_targetFailure?
          · split
            · apply Context.Raises.of_or .of_condition
              apply Context.Raises.of_or
              · exact .of_lookup fun _ => raises_of_tokensFailure?
              · exact raises_of_entriesFailure?
            · exact nofun

private theorem raises_of_entriesFailure? :
    ∀ {entries : List ExpandEntry},
      entriesFailure? context entries = some error → context.Raises error
  | [] => nofun
  | _ :: _ => .of_or raises_of_entryFailure? raises_of_entriesFailure?

end

private theorem raises_of_firstFailure? {spec : QuerySpec} {base : BaseDescriptor} {single : Bool}
    (failed : firstFailure? context spec base single = some error) : context.Raises error := by
  revert failed
  apply Context.Raises.of_or
  · exact .of_lookup fun _ => raises_of_orderFailure?
  · apply Context.Raises.of_or raises_of_entriesFailure?
    exact .of_or .of_translation .of_translation

/-! ## The first failure -/

/-- An assembly gives the first failure of what it consults, which is an error of the
catalog or of the translator and not one of writing, and it gives a descriptor if there is
none.  Among what is consulted are the associations, which fail with the first failure of
what they consult. -/
theorem assemble_first_failure (context : Context) (spec : QuerySpec) (base : BaseDescriptor)
    (single : Bool) :
    entriesFailure? context spec.expands = error? (resolveEntries context spec.expands) ∧
      match firstFailure? context spec base single with
      | some error => assemble context spec base single = .error error ∧
          context.Raises error ∧ ∀ reason, error ≠ .serialize reason
      | none => ∃ descriptor diagnostics,
          assemble context spec base single = .ok (descriptor, diagnostics) := by
  have outcome := error?_assemble context spec base single
  refine ⟨(error?_resolveEntries context spec.expands).symm, ?_⟩
  cases found : firstFailure? context spec base single with
  | some error =>
      rw [found] at outcome
      have raised : context.Raises error := raises_of_firstFailure? found
      exact ⟨error?_eq_some_iff.mp outcome, raised, raised.ne_serialize⟩
  | none =>
      rw [found] at outcome
      obtain ⟨⟨descriptor, diagnostics⟩, assembled⟩ := error?_eq_none_iff.mp outcome
      exact ⟨descriptor, diagnostics, assembled⟩

end QueryCompiler
