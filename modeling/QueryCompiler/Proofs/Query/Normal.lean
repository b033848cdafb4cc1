import QueryCompiler.Proofs.Json.Record
import QueryCompiler.Proofs.Query.WellFormed

/-!
# Normal specifications

A specification is normal if nothing in it counts as missing: its filters are not null,
its texts are not empty, its page and the length of its pages are above zero, and so are
the options of its associations at every depth.  Raw input asks for normal
specifications only, and a normal specification is what its own value asks for.
-/

namespace QueryCompiler

open Json

/-- No text of the options is empty, and no value of theirs is null. -/
structure ExpandRequest.Normal (request : ExpandRequest) : Prop where
  name : ∀ name ∈ request.name, name ≠ ""
  modelName : ∀ name ∈ request.modelName, name ≠ ""
  condition : ∀ expression ∈ request.condition, expression ≠ .null
  order : ∀ token ∈ request.order, token ≠ ""
  attributes : ∀ value ∈ request.attributes, value ≠ .null

/-- A value that asks for no association: neither a name nor an object of options. -/
def Json.Shapeless (raw : Json) : Prop :=
  (∀ name, raw = .string name → name = "") ∧ ∀ members, raw ≠ .object members

/-- What an entry holds, at every depth, is what raw input can ask for. -/
inductive ExpandEntry.Normal : ExpandEntry → Prop
  | name {association : String} (present : association ≠ "") : Normal (.name association)
  | request {wanted : ExpandRequest} {nested : List ExpandEntry} (options : wanted.Normal)
      (entries : ∀ entry ∈ nested, Normal entry) : Normal (.request wanted nested)
  | invalid {raw : Json} (shapeless : raw.Shapeless) : Normal (.invalid raw)

/-- Nothing in a specification counts as missing. -/
structure QuerySpec.Normal (spec : QuerySpec) : Prop where
  filter : spec.filter ≠ .null
  additionalFilter : spec.additionalFilter ≠ .null
  attributes : ∀ name ∈ spec.attributes, name ≠ ""
  page : 1 ≤ spec.page
  perPage : 1 ≤ spec.perPage
  orderBy : ∀ token ∈ spec.orderBy, token ≠ ""
  expands : ∀ entry ∈ spec.expands, entry.Normal

/-! ## Fields of normal specifications -/

theorem nonEmptyString?_eq_some_iff {raw : Json} {text : String} :
    nonEmptyString? raw = some text ↔ raw = .string text ∧ text ≠ "" := by
  cases raw with
  | string value =>
      by_cases empty : value = ""
      · have dropped : nonEmptyString? (.string value) = none := by simp [nonEmptyString?, empty]
        rw [dropped]
        grind
      · have kept : nonEmptyString? (.string value) = some value := by
          simp [nonEmptyString?, empty]
        rw [kept]
        grind
  | _ => simp [nonEmptyString?]

private theorem ne_empty_of_nonEmptyString? {raw : Option Json} :
    ∀ text ∈ raw.bind nonEmptyString?, text ≠ "" := by
  intro text member
  obtain ⟨value, _, found⟩ := Option.bind_eq_some_iff.mp member
  exact (nonEmptyString?_eq_some_iff.mp found).2

private theorem ne_null_of_bind_nonNull? {raw : Option Json} :
    ∀ value ∈ raw.bind nonNull?, value ≠ .null := by
  intro value member
  obtain ⟨found, _, kept⟩ := Option.bind_eq_some_iff.mp member
  exact (ne_null_of_nonNull? kept).2

private theorem ne_empty_of_stringList {raw : Option Json} :
    ∀ text ∈ stringList raw, text ≠ "" := by
  intro text member
  unfold stringList at member
  split at member
  · obtain ⟨item, _, found⟩ := List.mem_filterMap.mp member
    exact (nonEmptyString?_eq_some_iff.mp found).2
  · cases member

theorem filterOrEmpty_ne_null (raw : Option Json) : filterOrEmpty raw ≠ .null := by
  unfold filterOrEmpty
  cases kept : raw.bind nonNull? with
  | none => exact Json.noConfusion
  | some value => exact ne_null_of_bind_nonNull? value kept

theorem one_le_positiveNumber? {raw : Option Json} {default : UInt64} (above : 1 ≤ default) :
    1 ≤ (raw.bind positiveNumber?).getD default := by
  cases found : raw.bind positiveNumber? with
  | none => exact above
  | some number =>
      obtain ⟨value, _, positive⟩ := Option.bind_eq_some_iff.mp found
      obtain ⟨_, bound⟩ := Option.filter_eq_some_iff.mp positive
      exact of_decide_eq_true bound

/-! ## Raw input asks for normal specifications -/

private theorem ExpandRequest.normal_ofJson (raw : Json) : (ExpandRequest.ofJson raw).Normal where
  name := ne_empty_of_nonEmptyString?
  modelName := ne_empty_of_nonEmptyString?
  condition := ne_null_of_bind_nonNull?
  order := ne_empty_of_stringList
  attributes := ne_null_of_bind_nonNull?

namespace ExpandEntry

mutual

private theorem normal_ofJson : ∀ raw : Json, (ofJson raw).Normal
  | .string association => by
      rw [ofJson]
      split
      case isTrue empty =>
        have nameless : association = "" := by simpa using empty
        have shapeless : Shapeless (.string association) := by simp [Shapeless, nameless]
        exact .invalid shapeless
      case isFalse present =>
        have named : association ≠ "" := by simpa using present
        exact .name named
  | .object members => .request (ExpandRequest.normal_ofJson _) (normal_ofMembers members)
  | .null => .invalid (by simp [Shapeless])
  | .bool _ => .invalid (by simp [Shapeless])
  | .number _ => .invalid (by simp [Shapeless])
  | .array _ => .invalid (by simp [Shapeless])

private theorem normal_ofMembers : ∀ members : List (String × Json),
    ∀ entry ∈ ofMembers members, entry.Normal
  | [] => List.forall_mem_nil _
  | (key, value) :: members => by
      rw [ofMembers]
      split
      · exact normal_ofList value
      · exact normal_ofMembers members

private theorem normal_ofList : ∀ raw : Json, ∀ entry ∈ ofList raw, entry.Normal
  | .array items => normal_ofItems items
  | .null => List.forall_mem_nil _
  | .bool _ => List.forall_mem_nil _
  | .number _ => List.forall_mem_nil _
  | .string _ => List.forall_mem_nil _
  | .object _ => List.forall_mem_nil _

private theorem normal_ofItems : ∀ items : List Json, ∀ entry ∈ ofItems items, entry.Normal
  | [] => List.forall_mem_nil _
  | item :: items => List.forall_mem_cons.mpr ⟨normal_ofJson item, normal_ofItems items⟩

end

end ExpandEntry

theorem QuerySpec.normal_ofJson (raw : Json) : (QuerySpec.ofJson raw).Normal := by
  have one : (1 : UInt64) ≤ defaultPage := by decide
  have twenty : (1 : UInt64) ≤ defaultPerPage := by decide
  cases raw with
  | object members =>
      refine ⟨filterOrEmpty_ne_null _, filterOrEmpty_ne_null _, ne_empty_of_stringList,
        one_le_positiveNumber? one, one_le_positiveNumber? twenty, ne_empty_of_stringList, ?_⟩
      intro entry member
      simp only [ofJson] at member
      cases found : members.lookup "expands" with
      | none => simp [found] at member
      | some value =>
          rw [found] at member
          exact ExpandEntry.normal_ofList value entry member
  | _ =>
      exact ⟨Json.noConfusion, Json.noConfusion, List.forall_mem_nil _, one, twenty,
        List.forall_mem_nil _, List.forall_mem_nil _⟩

/-! ## Normal specifications are read back -/

private theorem bind_of_each {α : Type} {read : α → Option α} {option : Option α}
    (each : ∀ value ∈ option, read value = some value) : option.bind read = option := by
  cases option with
  | none => rfl
  | some value => exact each value rfl

private theorem nonEmptyString?_string {text : String} (present : text ≠ "") :
    nonEmptyString? (.string text) = some text :=
  nonEmptyString?_eq_some_iff.mpr ⟨rfl, present⟩

theorem nonNull?_of_ne_null {value : Json} (present : value ≠ .null) :
    value.nonNull? = some value := by
  cases value with
  | null => exact absurd rfl present
  | _ => rfl

/-- Of the texts of a list the empty ones are left out. -/
theorem stringList_ofStrings (texts : List String) :
    stringList (some (ofStrings texts)) = texts.filter fun text => !text.isEmpty := by
  induction texts with
  | nil => rfl
  | cons text texts inductionHypothesis =>
      have rest : (texts.map Json.string).filterMap nonEmptyString? =
          texts.filter fun text => !text.isEmpty := inductionHypothesis
      by_cases empty : text.isEmpty = true
      · simp [stringList, ofStrings, nonEmptyString?, empty, rest]
      · simp [stringList, ofStrings, nonEmptyString?, empty, rest]

theorem filter_nonEmpty_eq_self {texts : List String} (present : ∀ text ∈ texts, text ≠ "") :
    (texts.filter fun text => !text.isEmpty) = texts := by
  refine List.filter_eq_self.mpr ?_
  intro text member
  simpa using present text member

private theorem stringList_of_present {texts : List String} (present : ∀ text ∈ texts, text ≠ "") :
    stringList (some (ofStrings texts)) = texts := by
  rw [stringList_ofStrings, filter_nonEmpty_eq_self present]

/-- Normal options are given back, whatever entries stand beside them. -/
theorem ExpandRequest.Normal.ofJson_toMembers {request : ExpandRequest} (normal : request.Normal)
    (nested : List Json) :
    ExpandRequest.ofJson (.object (request.toMembers ++ listMember "expands" nested)) =
      request := by
  have name : (request.name.map Json.string).bind nonEmptyString? = request.name := by
    rw [Option.bind_map]
    exact bind_of_each fun text member => nonEmptyString?_string (normal.name text member)
  have modelName : (request.modelName.map Json.string).bind nonEmptyString? =
      request.modelName := by
    rw [Option.bind_map]
    exact bind_of_each fun text member => nonEmptyString?_string (normal.modelName text member)
  have condition : request.condition.bind nonNull? = request.condition :=
    bind_of_each fun value member => nonNull?_of_ne_null (normal.condition value member)
  have isRequired : (request.isRequired.map Json.bool).bind bool? = request.isRequired := by
    rw [Option.bind_map]
    exact bind_of_each fun _ _ => rfl
  have limit : (request.limit.map ofUInt64).bind wholeNumber? = request.limit := by
    rw [Option.bind_map]
    exact bind_of_each fun _ _ => rfl
  have separate : (request.separate.map Json.bool).bind bool? = request.separate := by
    rw [Option.bind_map]
    exact bind_of_each fun _ _ => rfl
  have attributes : request.attributes.bind nonNull? = request.attributes :=
    bind_of_each fun value member => nonNull?_of_ne_null (normal.attributes value member)
  -- An empty order is not written at all.
  have order : stringList (if request.order = [] then none
      else some (.array (request.order.map .string))) = request.order := by
    by_cases empty : request.order = []
    · rw [if_pos empty, empty]
      rfl
    · rw [if_neg empty]
      exact stringList_of_present normal.order
  simp [ExpandRequest.ofJson, ExpandRequest.toMembers, member?, List.lookup_append,
    lookup_optionalMember, lookup_listMember, name, modelName, condition, isRequired, limit,
    separate, order, attributes]

namespace ExpandEntry

private theorem ofMembers_eq_lookup (members : List (String × Json)) :
    ofMembers members = ((members.lookup "expands").map ofList).getD [] := by
  induction members with
  | nil => rfl
  | cons member members inductionHypothesis =>
      obtain ⟨key, value⟩ := member
      rw [ofMembers, List.lookup_cons]
      by_cases same : key = "expands"
      · simp [same]
      · have different : ("expands" == key) = false := beq_eq_false_iff_ne.mpr (Ne.symm same)
        simp only [if_neg same, different, inductionHypothesis]

private theorem ofMembers_toMembers (request : ExpandRequest) (nested : List Json) :
    ofMembers (request.toMembers ++ listMember "expands" nested) = ofItems nested := by
  rw [ofMembers_eq_lookup]
  cases nested with
  | nil =>
      simp [ExpandRequest.toMembers, List.lookup_append, lookup_optionalMember,
        lookup_listMember, ofItems]
  | cons item items =>
      simp [ExpandRequest.toMembers, List.lookup_append, lookup_optionalMember,
        lookup_listMember, ofList]

theorem ofItems_eq_map (items : List Json) : ofItems items = items.map ofJson := by
  induction items with
  | nil => rfl
  | cons item items inductionHypothesis => rw [ofItems, inductionHypothesis, List.map_cons]

private theorem ofItems_toJsonItems {entries : List ExpandEntry}
    (each : ∀ entry ∈ entries, ofJson entry.toJson = entry) :
    ofItems (toJsonItems entries) = entries := by
  induction entries with
  | nil => rfl
  | cons entry entries inductionHypothesis =>
      obtain ⟨first, rest⟩ := List.forall_mem_cons.mp each
      rw [toJsonItems, ofItems, first, inductionHypothesis rest]

private theorem ofJson_of_shapeless {raw : Json} (shapeless : raw.Shapeless) :
    ofJson raw = .invalid raw := by
  cases raw with
  | string association => simp [ofJson, shapeless.1 association rfl]
  | object members => exact absurd rfl (shapeless.2 members)
  | _ => rfl

/-- A normal entry is given back at every depth. -/
theorem Normal.ofJson_toJson {entry : ExpandEntry} (normal : entry.Normal) :
    ofJson entry.toJson = entry := by
  induction normal with
  | name present => simp [toJson, ofJson, present]
  | request options entries inductionHypothesis =>
      have nested := ofItems_toJsonItems inductionHypothesis
      rw [toJson, ofJson, options.ofJson_toMembers, ofMembers_toMembers, nested]
  | invalid shapeless => rw [toJson, ofJson_of_shapeless shapeless]

end ExpandEntry

namespace QuerySpec

theorem positiveNumber?_ofUInt64 {number : UInt64} (above : 1 ≤ number) :
    positiveNumber? (ofUInt64 number) = some number := by
  simp [positiveNumber?, wholeNumber?, ofUInt64, above]

private theorem Normal.ofJson_toJson {spec : QuerySpec} (normal : spec.Normal) :
    ofJson spec.toJson = spec := by
  have filter : filterOrEmpty (some spec.filter) = spec.filter := by
    simp [filterOrEmpty, nonNull?_of_ne_null normal.filter]
  have additionalFilter : filterOrEmpty (some spec.additionalFilter) = spec.additionalFilter := by
    simp [filterOrEmpty, nonNull?_of_ne_null normal.additionalFilter]
  have attributes := stringList_of_present normal.attributes
  have page := positiveNumber?_ofUInt64 normal.page
  have perPage := positiveNumber?_ofUInt64 normal.perPage
  have orderBy := stringList_of_present normal.orderBy
  have expands := ExpandEntry.ofItems_toJsonItems fun entry member =>
    (normal.expands entry member).ofJson_toJson
  simp [toJson, toMembers, ofJson, List.lookup_cons, filter, additionalFilter, attributes, page,
    perPage, orderBy, bool?, ExpandEntry.ofList, expands]

/-- What raw input asks for is written as a value that asks for the same.  No other
specifications are kept than those in which nothing counts as missing. -/
theorem ofJson_toJson_ofJson :
    (∀ raw : Json, ofJson (ofJson raw).toJson = ofJson raw) ∧
      ∀ spec : QuerySpec, ofJson spec.toJson = spec ↔ spec.Normal := by
  refine ⟨fun raw => (normal_ofJson raw).ofJson_toJson, fun spec => ⟨?_, Normal.ofJson_toJson⟩⟩
  intro kept
  rw [← kept]
  exact normal_ofJson spec.toJson

end QuerySpec

end QueryCompiler
