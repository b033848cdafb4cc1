import QueryCompiler.Proofs.Compile.Resolve
import QueryCompiler.Proofs.Descriptor.Include
import QueryCompiler.Proofs.Filter.WellFormed
import QueryCompiler.Proofs.Query.WellFormed

/-!
# Resolutions

An entry is dropped if it is neither a name nor an object, if it has no name, or if it is
known neither by its model nor by its name.  `Resolution` says what each step of a
resolution that succeeds does with an entry: it keeps a name, drops the entry with a
diagnostic, or expands it.  Statements about whole resolutions are inductions on it: what
well-formed entries resolve to is read back, and no diagnostic is about an option.
-/

namespace QueryCompiler

open Json

/-! ## Targets -/

/-- Whether a key is looked up and stands for no relation. -/
def Catalog.lacks (catalog : Catalog) (key : String) : Bool :=
  match catalog key with
  | .ok none => true
  | _ => false

theorem Catalog.lacks_iff {catalog : Catalog} {key : String} :
    catalog.lacks key = true ↔ catalog key = .ok none := by
  unfold Catalog.lacks
  split
  case h_1 answered => simp [answered]
  case h_2 other => simpa using other

/-- The key of a request with the relation it stands for: its model if that is known, and
else its name. -/
inductive TargetOf (catalog : Catalog) (request : ExpandRequest) (name : String) :
    String → RelationHandle → Prop
  | model {model : String} {target : RelationHandle} (asked : request.modelName = some model)
      (known : catalog model = .ok (some target)) : TargetOf catalog request name model target
  | name {target : RelationHandle}
      (unknown : ∀ model ∈ request.modelName, catalog model = .ok none)
      (known : catalog name = .ok (some target)) : TargetOf catalog request name name target

theorem resolveTarget_singleton_eq_some_iff {catalog : Catalog} {name key : String}
    {target : RelationHandle} :
    resolveTarget catalog [name] = .ok (some (key, target)) ↔
      key = name ∧ catalog name = .ok (some target) := by
  constructor
  · intro resolved
    obtain ⟨found, answered, resolved⟩ := Outcome.bind_eq_ok.mp resolved
    cases found with
    | none => cases resolved
    | some handle =>
        cases resolved
        exact ⟨rfl, answered⟩
  · rintro ⟨rfl, known⟩
    simp [resolveTarget, known]

theorem resolveTarget_eq_some_iff {catalog : Catalog} {request : ExpandRequest}
    {name key : String} {target : RelationHandle} :
    resolveTarget catalog (request.modelName.toList ++ [name]) = .ok (some (key, target)) ↔
      TargetOf catalog request name key target := by
  cases asked : request.modelName with
  | none =>
      rw [Option.toList_none, List.nil_append, resolveTarget_singleton_eq_some_iff]
      constructor
      · rintro ⟨rfl, known⟩
        exact .name (by simp [asked]) known
      · intro found
        cases found with
        | model other => simp [asked] at other
        | name _ known => exact ⟨rfl, known⟩
  | some model =>
      rw [Option.toList_some, List.singleton_append, resolveTarget]
      constructor
      · intro resolved
        obtain ⟨found, answered, resolved⟩ := Outcome.bind_eq_ok.mp resolved
        cases found with
        | some handle =>
            cases resolved
            exact .model asked answered
        | none =>
            obtain ⟨rfl, known⟩ := resolveTarget_singleton_eq_some_iff.mp resolved
            have unknown : ∀ other ∈ request.modelName, catalog other = .ok none := by
              intro other member
              rw [asked, Option.mem_some_iff] at member
              exact member ▸ answered
            exact .name unknown known
      · intro found
        cases found with
        | model other known =>
            cases asked.symm.trans other
            simp [known]
        | name unknown known =>
            have answered : catalog model = .ok none := unknown model asked
            rw [answered]
            exact resolveTarget_singleton_eq_some_iff.mpr ⟨rfl, known⟩

private theorem TargetOf.known {catalog : Catalog} {request : ExpandRequest} {name key : String}
    {target : RelationHandle} (found : TargetOf catalog request name key target) :
    catalog key = .ok (some target) := by
  cases found with
  | model _ known => exact known
  | name _ known => exact known

/-- No key is known exactly if each one is looked up and stands for nothing. -/
theorem resolveTarget_eq_none_iff {catalog : Catalog} {keys : List String} :
    resolveTarget catalog keys = .ok none ↔ keys.all catalog.lacks = true := by
  induction keys with
  | nil => simp [resolveTarget]
  | cons key keys inductionHypothesis =>
      rw [List.all_cons, Bool.and_eq_true, Catalog.lacks_iff, ← inductionHypothesis]
      constructor
      · intro resolved
        obtain ⟨found, answered, resolved⟩ := Outcome.bind_eq_ok.mp resolved
        cases found with
        | none => exact ⟨answered, resolved⟩
        | some handle => cases resolved
      · rintro ⟨answered, rest⟩
        rw [resolveTarget, answered]
        exact rest

/-! ## Dropped entries -/

/-- The diagnostic of an entry that is dropped. -/
def dropDiagnostic? (catalog : Catalog) : ExpandEntry → Option Diagnostic
  | .name _ => none
  | .invalid raw => some (.invalidExpandShape raw.compact)
  | .request request nested =>
      match request.name with
      | none => some (.missingExpandName (ExpandEntry.toJson (.request request nested)).compact)
      | some name =>
          if (request.modelName.toList ++ [name]).all catalog.lacks then
            some (.unresolvedExpand name request.modelName)
          else
            none

theorem not_dropped_of_target {catalog : Catalog} {request : ExpandRequest}
    {nested : List ExpandEntry} {name key : String} {target : RelationHandle}
    (named : request.name = some name) (found : TargetOf catalog request name key target) :
    dropDiagnostic? catalog (.request request nested) = none := by
  have someLacking : (request.modelName.toList ++ [name]).all catalog.lacks ≠ true := by
    intro lacking
    have resolved := resolveTarget_eq_some_iff.mpr found
    rw [resolveTarget_eq_none_iff.mpr lacking] at resolved
    cases resolved
  simp only [dropDiagnostic?, named]
  rw [if_neg someLacking]

/-- Whether a diagnostic tells that an entry was dropped. -/
def Diagnostic.isDrop : Diagnostic → Bool
  | .missingExpandName _ => true
  | .unresolvedExpand _ _ => true
  | .invalidExpandShape _ => true
  | _ => false

theorem isDrop_of_dropDiagnostic? {catalog : Catalog} {entry : ExpandEntry}
    {diagnostic : Diagnostic}
    (dropped : dropDiagnostic? catalog entry = some diagnostic) : diagnostic.isDrop = true := by
  unfold dropDiagnostic? at dropped
  split at dropped
  case h_1 => cases dropped
  case h_2 =>
    cases dropped
    rfl
  case h_3 =>
    split at dropped
    case h_1 =>
      cases dropped
      rfl
    case h_2 =>
      split at dropped
      · cases dropped
        rfl
      · cases dropped

/-! ## Steps -/

/-- The relation of a term, if it has one, is known and has the handle of the term. -/
def OrderTerm.KnownIn (catalog : Catalog) (term : OrderTerm) : Prop :=
  ∀ relation ∈ term.relation, catalog relation.name = .ok (some relation.handle)

/-- What a request that is kept becomes, apart from the entries within it. -/
structure Expanded (context : Context) (request : ExpandRequest) (expansion : Expansion) :
    Prop where
  named : request.name = some expansion.name
  target : TargetOf context.catalog request expansion.name expansion.targetKey expansion.target
  known : context.catalog expansion.targetKey = .ok (some expansion.target)
  condition : resolveCondition context.translator request.condition = .ok expansion.condition
  order : ∀ term ∈ expansion.order, term.KnownIn context.catalog
  isRequired : expansion.isRequired = request.isRequired
  limit : expansion.limit = request.limit
  separate : expansion.separate = request.separate
  attributes : expansion.attributes = request.attributes

/-- A resolution that succeeds, entry after entry. -/
inductive Resolution (context : Context) :
    List ExpandEntry → List Include → List Diagnostic → Prop
  | nil : Resolution context [] [] []
  | name {entries : List ExpandEntry} {includes : List Include} {diagnostics : List Diagnostic}
      (association : String) (rest : Resolution context entries includes diagnostics) :
      Resolution context (.name association :: entries) (.name association :: includes) diagnostics
  | dropped {entry : ExpandEntry} {diagnostic : Diagnostic} {entries : List ExpandEntry}
      {includes : List Include} {diagnostics : List Diagnostic}
      (dropped : dropDiagnostic? context.catalog entry = some diagnostic)
      (rest : Resolution context entries includes diagnostics) :
      Resolution context (entry :: entries) includes (diagnostic :: diagnostics)
  | expanded {request : ExpandRequest} {expansion : Expansion} {nested entries : List ExpandEntry}
      {nestedIncludes includes : List Include}
      {orderDiagnostics nestedDiagnostics diagnostics : List Diagnostic}
      (kept : dropDiagnostic? context.catalog (.request request nested) = none)
      (expanded : Expanded context request expansion)
      (ordered : ResolvedOrder context.catalog request.order expansion.order orderDiagnostics)
      (within : Resolution context nested nestedIncludes nestedDiagnostics)
      (rest : Resolution context entries includes diagnostics) :
      Resolution context (.request request nested :: entries)
        (.expand expansion nestedIncludes :: includes)
        (orderDiagnostics ++ nestedDiagnostics ++ diagnostics)

theorem ResolvedToken.knownIn {catalog : Catalog} {token : String} {terms : List OrderTerm}
    {diagnostics : List Diagnostic}
    (resolved : ResolvedToken catalog token terms diagnostics) :
    ∀ term ∈ terms, term.KnownIn catalog := by
  cases resolved with
  | invalid => exact List.forall_mem_nil _
  | plain => simp [OrderTerm.KnownIn, OrderTerm.plain]
  | unresolved => simp [OrderTerm.KnownIn, OrderTerm.plain]
  | qualified _ known => simpa [OrderTerm.KnownIn, OrderTerm.qualified] using known

theorem ResolvedOrder.knownIn {catalog : Catalog} {tokens : List String}
    {terms : List OrderTerm} {diagnostics : List Diagnostic}
    (resolved : ResolvedOrder catalog tokens terms diagnostics) :
    ∀ term ∈ terms, term.KnownIn catalog := by
  induction resolved with
  | nil => exact List.forall_mem_nil _
  | cons first rest inductionHypothesis =>
      intro term member
      rcases List.mem_append.mp member with member | member
      · exact first.knownIn term member
      · exact inductionHypothesis term member

theorem resolution_of_resolveEntries {context : Context} :
    ∀ {entries : List ExpandEntry} {includes : List Include} {diagnostics : List Diagnostic},
      resolveEntries context entries = .ok (includes, diagnostics) →
        Resolution context entries includes diagnostics
  | [], _, _, resolved => by
      cases resolved
      exact .nil
  | .name association :: entries, _, _, resolved => by
      obtain ⟨first, rest, firstResolved, restResolved, rfl, rfl⟩ :=
        resolveEntries_cons_eq_ok resolved
      cases firstResolved
      exact .name association (resolution_of_resolveEntries restResolved)
  | .invalid raw :: entries, _, _, resolved => by
      obtain ⟨first, rest, firstResolved, restResolved, rfl, rfl⟩ :=
        resolveEntries_cons_eq_ok resolved
      cases firstResolved
      exact .dropped rfl (resolution_of_resolveEntries restResolved)
  | .request request nested :: entries, _, _, resolved => by
      obtain ⟨⟨firstIncludes, firstDiagnostics⟩, rest, firstResolved, restResolved, rfl, rfl⟩ :=
        resolveEntries_cons_eq_ok resolved
      have restResolution := resolution_of_resolveEntries restResolved
      cases of_resolveEntry firstResolved with
      | unnamed unnamed =>
          apply Resolution.dropped _ restResolution
          simp [dropDiagnostic?, unnamed]
      | unresolved named unknown =>
          apply Resolution.dropped _ restResolution
          simp only [dropDiagnostic?, named]
          rw [if_pos (resolveTarget_eq_none_iff.mp unknown)]
      | expanded named known conditioned ordered nestedResolved =>
          have target := resolveTarget_eq_some_iff.mp known
          have resolvedOrder := of_resolveOrder ordered
          have kept : dropDiagnostic? context.catalog (.request request nested) = none :=
            not_dropped_of_target named target
          have nestedResolution := resolution_of_resolveEntries nestedResolved
          exact .expanded kept
            ⟨named, target, target.known, conditioned, resolvedOrder.knownIn, rfl, rfl, rfl, rfl⟩
            resolvedOrder nestedResolution restResolution

/-! ## Includes are read back -/

private theorem wellFormed_of_resolveCondition {translator : FilterTranslator}
    (keeps : translator.KeepsWellFormed) {expression : Option Json} {condition : Option Predicate}
    (wellFormed : ∀ value ∈ expression, value.WellFormed)
    (resolved : resolveCondition translator expression = .ok condition) :
    ∀ predicate ∈ condition, predicate.WellFormed := by
  cases expression with
  | none =>
      cases resolved
      exact fun _ member => nomatch member
  | some value =>
      obtain ⟨predicate, translated, rfl⟩ := Outcome.map_eq_ok.mp resolved
      have kept := keeps value predicate (wellFormed value rfl) translated
      exact fun _ member => Option.some.inj member ▸ kept

/-- What well-formed entries resolve to is read back, at every depth. -/
theorem Resolution.restorable {context : Context} {entries : List ExpandEntry}
    {includes : List Include} {diagnostics : List Diagnostic}
    (resolution : Resolution context entries includes diagnostics)
    (keeps : context.translator.KeepsWellFormed)
    (wellFormed : ∀ entry ∈ entries, entry.WellFormed) :
    ∀ included ∈ includes, included.Restorable := by
  induction resolution with
  | nil => exact List.forall_mem_nil _
  | name association rest restHypothesis =>
      obtain ⟨_, restWellFormed⟩ := List.forall_mem_cons.mp wellFormed
      exact List.forall_mem_cons.mpr ⟨.name association, restHypothesis restWellFormed⟩
  | dropped dropped rest restHypothesis =>
      obtain ⟨_, restWellFormed⟩ := List.forall_mem_cons.mp wellFormed
      exact restHypothesis restWellFormed
  | expanded kept expanded ordered within rest withinHypothesis restHypothesis =>
      obtain ⟨firstWellFormed, restWellFormed⟩ := List.forall_mem_cons.mp wellFormed
      cases firstWellFormed with
      | request options entries =>
          -- Order terms are read back whatever they hold.
          have condition := wellFormed_of_resolveCondition keeps options.condition
            expanded.condition
          have attributes := expanded.attributes ▸ options.attributes
          exact List.forall_mem_cons.mpr
            ⟨.expand ⟨condition, attributes⟩ (withinHypothesis entries),
              restHypothesis restWellFormed⟩

/-! ## Diagnostics are not about options -/

/-- No diagnostic is about a reserved option. -/
def NoReservedOption (diagnostics : List Diagnostic) : Prop :=
  ∀ key, Diagnostic.reservedOption key ∉ diagnostics

namespace NoReservedOption

theorem nil : NoReservedOption [] :=
  fun _ => List.not_mem_nil

private theorem single {diagnostic : Diagnostic} (other : ∀ key, .reservedOption key ≠ diagnostic) :
    NoReservedOption [diagnostic] :=
  fun key member => other key (List.mem_singleton.mp member)

theorem append {before after : List Diagnostic} (first : NoReservedOption before)
    (second : NoReservedOption after) : NoReservedOption (before ++ after) := by
  intro key member
  rcases List.mem_append.mp member with member | member
  · exact first key member
  · exact second key member

end NoReservedOption

theorem ResolvedToken.noReservedOption {catalog : Catalog} {token : String}
    {terms : List OrderTerm} {diagnostics : List Diagnostic}
    (resolved : ResolvedToken catalog token terms diagnostics) : NoReservedOption diagnostics := by
  cases resolved with
  | invalid => exact .single nofun
  | plain => exact .nil
  | qualified => exact .nil
  | unresolved => exact .single nofun

theorem ResolvedOrder.noReservedOption {catalog : Catalog} {tokens : List String}
    {terms : List OrderTerm} {diagnostics : List Diagnostic}
    (resolved : ResolvedOrder catalog tokens terms diagnostics) :
    NoReservedOption diagnostics := by
  induction resolved with
  | nil => exact .nil
  | cons first rest inductionHypothesis =>
      exact first.noReservedOption.append inductionHypothesis

theorem Resolution.noReservedOption {context : Context} {entries : List ExpandEntry}
    {includes : List Include} {diagnostics : List Diagnostic}
    (resolution : Resolution context entries includes diagnostics) :
    NoReservedOption diagnostics := by
  induction resolution with
  | nil => exact .nil
  | name association rest restHypothesis => exact restHypothesis
  | @dropped entry diagnostic entries includes diagnostics dropped rest restHypothesis =>
      have other : ∀ key, Diagnostic.reservedOption key ≠ diagnostic := by
        rintro key rfl
        cases isDrop_of_dropDiagnostic? dropped
      exact (NoReservedOption.single other).append restHypothesis
  | expanded kept expanded ordered within rest withinHypothesis restHypothesis =>
      exact (ordered.noReservedOption.append withinHypothesis).append restHypothesis

end QueryCompiler
