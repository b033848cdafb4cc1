import QueryCompiler.Json.Decode
import QueryCompiler.Proofs.Json.WellFormed
import QueryCompiler.Relation.Basic

/-!
# Decoding what was written

A decoder gives back what a writer wrote: item by item for lists, and field by
field for records.  `Fills` follows a partial record from one to another along
the members that are set in it, so that the members of a record are treated in
the groups in which they are written.

For the other direction `Yields` says what every value that a decoder gives has
in common, whatever the draft was.
-/

namespace QueryCompiler.Json

variable {α σ : Type}

/-- A draft of another kind gives no value. -/
theorem wrongType_ne_ok {expected : Expected} {draft : Draft} {value : α} :
    wrongType expected draft ≠ .ok value := by
  intro decoded
  obtain ⟨_, _, failed⟩ := Outcome.bind_eq_ok.mp decoded
  cases failed

/-! ## Lists and options -/

private theorem decodeItems_ofItems {decode : Decoder α} {encode : α → Json} {values : List α}
    (each : ∀ value ∈ values, decode (Draft.ofJson (encode value)) = .ok value) :
    decodeItems decode (Draft.ofItems (values.map encode)) = .ok values := by
  induction values with
  | nil => rfl
  | cons value values inductionHypothesis =>
      obtain ⟨first, rest⟩ := List.forall_mem_cons.mp each
      rw [List.map_cons, Draft.ofItems, decodeItems, first, inductionHypothesis rest]
      rfl

/-- A list is given back when each of its items is. -/
theorem decodeList_ofJson {decode : Decoder α} {encode : α → Json} {values : List α}
    (each : ∀ value ∈ values, decode (Draft.ofJson (encode value)) = .ok value) :
    decodeList decode (Draft.ofJson (.array (values.map encode))) = .ok values := by
  rw [Draft.ofJson, decodeList, decodeItems_ofItems each]
  rfl

theorem decodeList_strings (texts : List String) :
    decodeList decodeString (Draft.ofJson (.array (texts.map .string))) = .ok texts :=
  decodeList_ofJson fun _ _ => rfl

/-- A value other than null is no missing value. -/
theorem decodeOption_of_ok {decode : Decoder α} {draft : Draft} {value : α}
    (decoded : decode draft = .ok value) (present : draft ≠ .null) :
    decodeOption decode draft = .ok (some value) := by
  unfold decodeOption
  split
  · exact absurd rfl present
  · rw [decoded]
    rfl

/-! ## What decoders yield -/

/-- Every value that the decoder gives has a property. -/
def Yields (decode : Decoder α) (property : α → Prop) : Prop :=
  ∀ draft value, decode draft = .ok value → property value

private theorem Yields.items {decode : Decoder α} {property : α → Prop}
    (yields : Yields decode property)
    {drafts : List Draft} {values : List α} (decoded : decodeItems decode drafts = .ok values) :
    ∀ value ∈ values, property value := by
  induction drafts generalizing values with
  | nil =>
      cases decoded
      exact List.forall_mem_nil _
  | cons draft drafts inductionHypothesis =>
      rw [decodeItems] at decoded
      obtain ⟨first, rest, firstDecoded, restDecoded, rfl⟩ := Outcome.cons_eq_ok.mp decoded
      have restYields := inductionHypothesis restDecoded
      exact List.forall_mem_cons.mpr ⟨yields draft first firstDecoded, restYields⟩

theorem Yields.list {decode : Decoder α} {property : α → Prop} (yields : Yields decode property) :
    Yields (decodeList decode) fun values => ∀ value ∈ values, property value := by
  intro draft values decoded
  unfold decodeList at decoded
  split at decoded
  · obtain ⟨items, itemsDecoded, continued⟩ := Outcome.bind_eq_ok.mp decoded
    obtain ⟨_, _, last⟩ := Outcome.bind_eq_ok.mp continued
    cases last
    exact yields.items itemsDecoded
  · exact absurd decoded wrongType_ne_ok

theorem Yields.option {decode : Decoder α} {property : α → Prop}
    (yields : Yields decode property) :
    Yields (decodeOption decode) fun option => ∀ value ∈ option, property value := by
  intro draft option decoded value member
  unfold decodeOption at decoded
  split at decoded
  · cases decoded
    cases member
  · obtain ⟨found, foundDecoded, last⟩ := Outcome.map_eq_ok.mp decoded
    cases last
    cases member
    exact yields draft value foundDecoded

theorem yields_value : Yields Draft.value WellFormed :=
  fun _ _ => Draft.wellFormed_of_value

/-! ## Filling a record -/

/-- Setting members in order leads from one partial record to another. -/
inductive Fills (sets : String → Json → σ → σ → Prop) : σ → Members → σ → Prop
  | done (partly : σ) : Fills sets partly [] partly
  | step {key : String} {value : Json} {members : Members} {before between after : σ}
      (first : sets key value before between) (rest : Fills sets between members after) :
      Fills sets before ((key, value) :: members) after

namespace Fills

variable {sets : String → Json → σ → σ → Prop}

theorem append {before between after : σ} {members others : Members}
    (first : Fills sets before members between) (second : Fills sets between others after) :
    Fills sets before (members ++ others) after := by
  induction first with
  | done partly => exact second
  | step set rest inductionHypothesis => exact .step set (inductionHypothesis second)

theorem single {key : String} {value : Json} {before after : σ}
    (set : sets key value before after) : Fills sets before [(key, value)] after :=
  .step set (.done after)

/-- A field that is written only if it has a value; the others find it unset. -/
theorem optionalMember {key : String} {encode : α → Json} {option : Option α}
    (put : Option α → σ)
    (present : ∀ value ∈ option, sets key (encode value) (put none) (put (some value))) :
    Fills sets (put none) (QueryCompiler.optionalMember key encode option) (put option) := by
  cases option with
  | none => exact .done _
  | some value => exact .single (present value rfl)

/-- A field that is written only if it has items; without them it stays empty. -/
theorem listMember {key : String} {encode : α → Json} {values : List α} (put : List α → σ)
    (present : sets key (.array (values.map encode)) (put []) (put values)) :
    Fills sets (put []) (QueryCompiler.listMember key (values.map encode)) (put values) := by
  cases values with
  | nil => exact .done _
  | cons value values => exact .single present

end Fills

/-! ## Keys and lookups -/

theorem keys_optionalMember_sublist (key : String) (encode : α → Json) (option : Option α) :
    ((optionalMember key encode option).map Prod.fst).Sublist [key] := by
  cases option with
  | none => exact List.nil_sublist _
  | some value => exact List.Sublist.refl _

theorem keys_listMember_sublist (key : String) (items : List Json) :
    ((listMember key items).map Prod.fst).Sublist [key] := by
  cases items with
  | nil => exact List.nil_sublist _
  | cons item items => exact List.Sublist.refl _

theorem lookup_optionalMember (key other : String) (encode : α → Json)
    (option : Option α) :
    (optionalMember key encode option).lookup other =
      if other = key then option.map encode else none := by
  by_cases same : other = key
  · subst same
    cases option <;> simp [optionalMember]
  · have different : (other == key) = false := beq_eq_false_iff_ne.mpr same
    cases option <;> simp [optionalMember, List.lookup_cons, same, different]

/-- What is found under the key of a list, unless the list is empty. -/
theorem lookup_listMember (key other : String) (items : List Json) :
    (listMember key items).lookup other =
      if other = key ∧ items ≠ [] then some (.array items) else none := by
  cases items with
  | nil => simp [listMember]
  | cons item items =>
      by_cases same : other = key
      · simp [listMember, same]
      · have different : (other == key) = false := beq_eq_false_iff_ne.mpr same
        simp [listMember, List.lookup_cons, same, different]

/-- A key that comes once and was not seen is not seen before the keys after it. -/
theorem not_mem_seen_cons {key : String} {keys seen : List String} (once : key ∉ keys)
    (fresh : ∀ other ∈ keys, other ∉ seen) : ∀ other ∈ keys, other ∉ key :: seen := by
  intro other member seenOther
  rcases List.mem_cons.mp seenOther with same | before
  · exact once (same ▸ member)
  · exact fresh other member before

/-- Members that a record may hold beside its fields. -/
structure Beside (fields : List String) (members : Members) : Prop where
  nodup : (members.map Prod.fst).Nodup
  free : ∀ member ∈ members, member.1 ∉ fields
  wellFormed : ∀ member ∈ members, member.2.WellFormed

private theorem Beside.tail {fields : List String} {member : String × Json} {members : Members}
    (beside : Beside fields (member :: members)) : Beside fields members where
  nodup := (List.nodup_cons.mp beside.nodup).2
  free := (List.forall_mem_cons.mp beside.free).2
  wellFormed := (List.forall_mem_cons.mp beside.wellFormed).2

namespace RecordShape

/-- A member can be set in a partial record, and this is what becomes of it. -/
def Sets (shape : RecordShape σ α) (key : String) (value : Json) (before after : σ) : Prop :=
  shape.set key (Draft.ofJson value) before = .ok after

/-! ## Records -/

/-- Fields that were not seen are set one after another. -/
theorem setMembers_of_fills {shape : RecordShape σ α} {members : Members} {before after : σ}
    (fills : Fills shape.Sets before members after) {seen : List String}
    (nodup : (members.map Prod.fst).Nodup)
    (known : ∀ key ∈ members.map Prod.fst, key ∈ shape.fields)
    (fresh : ∀ key ∈ members.map Prod.fst, key ∉ seen) :
    shape.setMembers seen before (Draft.ofMembers members) = .ok after := by
  -- Each step puts its key among those that were seen, and later keys differ from it.
  induction fills generalizing seen with
  | done partly => rfl
  | @step key value members before between after first rest inductionHypothesis =>
      simp only [List.map_cons, List.nodup_cons] at nodup
      simp only [List.map_cons, List.forall_mem_cons] at known fresh
      have later := @inductionHypothesis (key :: seen) nodup.2 known.2
        (not_mem_seen_cons nodup.1 fresh.2)
      have set : shape.set key (Draft.ofJson value) before = .ok between := first
      rw [Draft.ofMembers, setMembers, Draft.readKey_ok, Outcome.ok_bind,
        if_pos (List.contains_iff_mem.mpr known.1),
        if_neg (fun repeated => fresh.1 (List.contains_iff_mem.mp repeated)), set,
        Outcome.ok_bind, later]

/-- A record is decoded from members that fill it, if they keep to the order of
its fields. -/
theorem decode_of_fills {shape : RecordShape σ α} {members : Members} {partly : σ} {value : α}
    (source : Source) (fills : Fills shape.Sets shape.empty members partly)
    (keys : (members.map Prod.fst).Sublist shape.fields) (nodup : shape.fields.Nodup)
    (finished : shape.finish partly = .ok value) :
    shape.decode source (Draft.ofJson (.object members)) = .ok value := by
  have set : shape.setMembers [] shape.empty (Draft.ofMembers members) = .ok partly :=
    setMembers_of_fills fills (keys.nodup nodup) (fun _ member => keys.subset member)
      fun _ _ => List.not_mem_nil
  rw [Draft.ofJson, decode, set, Outcome.ok_bind, ObjectEnd.reading, Outcome.ok_bind, finished,
    Outcome.mapError_ok]

/-! ## Open records -/

/-- Without a field among them, all members are kept. -/
theorem setOpenMembers_of_beside {shape : RecordShape σ α} {others : Members}
    (beside : Beside shape.fields others) (seen : List String) (partly : σ) :
    shape.setOpenMembers seen partly (Draft.ofMembers others) = .ok (partly, others) := by
  induction others with
  | nil => rfl
  | cons member others inductionHypothesis =>
      have rest := inductionHypothesis beside.tail
      have unknown : ¬ shape.fields.contains member.1 = true := fun known =>
        beside.free member List.mem_cons_self (List.contains_iff_mem.mp known)
      have read := Draft.value_ofJson (beside.wellFormed member List.mem_cons_self)
      rw [Draft.ofMembers, setOpenMembers, Draft.readKey_ok, Outcome.ok_bind, if_neg unknown, read,
        Outcome.ok_bind, rest]
      rfl

private theorem setOpenMembers_of_fills {shape : RecordShape σ α} {members others : Members}
    {before after : σ} (fills : Fills shape.Sets before members after) {seen : List String}
    (nodup : (members.map Prod.fst).Nodup)
    (known : ∀ key ∈ members.map Prod.fst, key ∈ shape.fields)
    (fresh : ∀ key ∈ members.map Prod.fst, key ∉ seen)
    (beside : Beside shape.fields others) :
    shape.setOpenMembers seen before (Draft.ofMembers (members ++ others)) =
      .ok (after, others) := by
  induction fills generalizing seen with
  | done partly => exact setOpenMembers_of_beside beside seen partly
  | @step key value members before between after first rest inductionHypothesis =>
      simp only [List.map_cons, List.nodup_cons] at nodup
      simp only [List.map_cons, List.forall_mem_cons] at known fresh
      have later := @inductionHypothesis (key :: seen) nodup.2 known.2
        (not_mem_seen_cons nodup.1 fresh.2)
      have set : shape.set key (Draft.ofJson value) before = .ok between := first
      rw [List.cons_append, Draft.ofMembers, setOpenMembers, Draft.readKey_ok, Outcome.ok_bind,
        if_pos (List.contains_iff_mem.mpr known.1),
        if_neg (fun repeated => fresh.1 (List.contains_iff_mem.mp repeated)), set,
        Outcome.ok_bind, later]

/-- An open record is decoded from members that fill it and others beside its
fields. -/
theorem decodeOpen_of_fills {shape : RecordShape σ (Members → α)} {members others : Members}
    {partly : σ} {value : Members → α} (fills : Fills shape.Sets shape.empty members partly)
    (keys : (members.map Prod.fst).Sublist shape.fields) (nodup : shape.fields.Nodup)
    (beside : Beside shape.fields others) (finished : shape.finish partly = .ok value) :
    shape.decodeOpen (Draft.ofJson (.object (members ++ others))) = .ok (value others) := by
  have set : shape.setOpenMembers [] shape.empty (Draft.ofMembers (members ++ others)) =
      .ok (partly, others) :=
    setOpenMembers_of_fills fills (keys.nodup nodup) (fun _ member => keys.subset member)
      (fun _ _ => List.not_mem_nil) beside
  rw [Draft.ofJson, decodeOpen, set, Outcome.ok_bind]
  simp only [ObjectEnd.reading, Outcome.ok_bind, finished, Outcome.mapError_ok,
    distinctMembers_of_nodup beside.nodup, Outcome.pure_eq]

/-- What setting any one field preserves holds of the partial record in the end,
and what is kept beside the fields is well-formed. -/
theorem setOpenMembers_invariant {shape : RecordShape σ α} {invariant : σ → Prop}
    (preserved : ∀ key draft before after,
      invariant before → shape.set key draft before = .ok after → invariant after)
    {members : List (Except TextFault String × Draft)} {seen : List String} {before after : σ}
    {others : Members} (start : invariant before)
    (set : shape.setOpenMembers seen before members = .ok (after, others)) :
    invariant after ∧ ∀ member ∈ others, member.1 ∉ shape.fields ∧ member.2.WellFormed := by
  induction members generalizing seen before others with
  | nil =>
      cases set
      exact ⟨start, List.forall_mem_nil _⟩
  | cons pair members inductionHypothesis =>
      obtain ⟨key, draft⟩ := pair
      rw [setOpenMembers] at set
      obtain ⟨name, _, set⟩ := Outcome.bind_eq_ok.mp set
      split at set
      · split at set
        · cases set
        · obtain ⟨between, first, rest⟩ := Outcome.bind_eq_ok.mp set
          exact inductionHypothesis (preserved name draft before between start first) rest
      · rename_i unknown
        obtain ⟨value, read, set⟩ := Outcome.bind_eq_ok.mp set
        obtain ⟨⟨reached, kept⟩, rest, last⟩ := Outcome.bind_eq_ok.mp set
        cases last
        obtain ⟨reachedInvariant, keptBeside⟩ := inductionHypothesis start rest
        have free : name ∉ shape.fields := fun known =>
          unknown (List.contains_iff_mem.mpr known)
        have first := And.intro free (Draft.wellFormed_of_value read)
        exact ⟨reachedInvariant, List.forall_mem_cons.mpr ⟨first, keptBeside⟩⟩

/-- An open record comes from a partial record that keeps the invariant, and from
members beside its fields. -/
theorem decodeOpen_yields {shape : RecordShape σ (Members → α)} {invariant : σ → Prop}
    (start : invariant shape.empty)
    (preserved : ∀ key draft before after,
      invariant before → shape.set key draft before = .ok after → invariant after) :
    Yields shape.decodeOpen fun value =>
      ∃ partly finish others, invariant partly ∧ shape.finish partly = .ok finish ∧
        Beside shape.fields others ∧ value = finish others := by
  intro draft value decoded
  unfold decodeOpen at decoded
  split at decoded
  · obtain ⟨⟨partly, others⟩, set, decoded⟩ := Outcome.bind_eq_ok.mp decoded
    obtain ⟨_, _, decoded⟩ := Outcome.bind_eq_ok.mp decoded
    obtain ⟨finish, finished, last⟩ := Outcome.bind_eq_ok.mp decoded
    cases last
    obtain ⟨partlyInvariant, beside⟩ := setOpenMembers_invariant preserved start set
    refine ⟨partly, finish, distinctMembers others, partlyInvariant,
      Outcome.mapError_eq_ok.mp finished, ⟨nodup_keys_distinctMembers others, ?_, ?_⟩, rfl⟩
    · exact fun member found => (beside member (mem_of_mem_distinctMembers found)).1
    · exact fun member found => (beside member (mem_of_mem_distinctMembers found)).2
  · exact absurd decoded wrongType_ne_ok

/-! ## Shapes that keep a view of a field -/

/-- A shape has the fields of another one, and keeps a view of what that one makes of them. -/
structure Views {τ β : Type} (shape : RecordShape σ α) (other : RecordShape τ β) (view : σ → τ)
    (result : α → β) : Prop where
  name : other.name = shape.name
  fields : other.fields = shape.fields
  empty : other.empty = view shape.empty
  set : ∀ key draft partly,
    other.set key draft (view partly) = (shape.set key draft partly).map view
  finish : ∀ partly, other.finish (view partly) = (shape.finish partly).map result

section

variable {τ β : Type} {shape : RecordShape σ α} {other : RecordShape τ β} {view : σ → τ}
  {result : α → β}

private theorem Views.setMembers (views : shape.Views other view result) (seen : List String)
    (partly : σ) (members : List (Except TextFault String × Draft)) :
    other.setMembers seen (view partly) members =
      (shape.setMembers seen partly members).map view := by
  induction members generalizing seen partly with
  | nil => rfl
  | cons member members inductionHypothesis =>
      obtain ⟨key, draft⟩ := member
      rw [RecordShape.setMembers, RecordShape.setMembers, views.fields]
      refine Outcome.bind_eq_map_bind fun name => ?_
      split
      case isTrue known =>
        split
        case isTrue seenBefore => rfl
        case isFalse fresh =>
          rw [views.set, Outcome.map_bind]
          exact Outcome.bind_eq_map_bind fun between => inductionHypothesis (name :: seen) between
      case isFalse unknown =>
        exact Outcome.bind_eq_map_bind fun _ => inductionHypothesis seen partly

private theorem Views.setItems (views : shape.Views other view result) (partly : σ)
    (fields : List String) (items : List Draft) :
    other.setItems (view partly) fields items =
      (shape.setItems partly fields items).map fun reached => (view reached.1, reached.2) := by
  induction fields generalizing partly items with
  | nil => rfl
  | cons field fields inductionHypothesis =>
      cases items with
      | nil => rfl
      | cons item items =>
          rw [RecordShape.setItems, RecordShape.setItems, views.set, Outcome.map_bind]
          exact Outcome.bind_eq_map_bind fun between => inductionHypothesis between items

/-- Such a shape decodes a draft to a view of what the other one does, or to its error. -/
theorem Views.decode (views : shape.Views other view result) (source : Source) (draft : Draft) :
    other.decode source draft = (shape.decode source draft).map result := by
  cases draft with
  | object members ending =>
      rw [RecordShape.decode, RecordShape.decode, views.empty, views.setMembers,
        Outcome.map_bind]
      refine Outcome.bind_eq_map_bind fun partly => Outcome.bind_eq_map_bind fun _ => ?_
      rw [views.finish, Outcome.mapError_map]
  | array items ending =>
      rw [RecordShape.decode, RecordShape.decode, views.empty, views.fields, views.setItems,
        Outcome.map_bind]
      refine Outcome.bind_eq_map_bind fun reached => ?_
      have closed (value : α) :
          (if reached.2.isEmpty then ending.closing >>= fun _ => pure (result value)
            else throw (tooManyItems source items.length shape.fields.length)) =
          Except.map result (if reached.2.isEmpty then ending.closing >>= fun _ => pure value
            else throw (tooManyItems source items.length shape.fields.length)) := by
        split
        · exact Outcome.bind_eq_map_bind fun _ => rfl
        · rfl
      simp only [views.name, views.finish, Outcome.mapError_map, Outcome.map_bind]
      split
      · exact Outcome.bind_eq_map_bind fun _ => Outcome.bind_eq_map_bind closed
      · exact Outcome.bind_eq_map_bind closed
  | fault cause => rfl
  | tooDeep contents => rfl
  | _ => exact congrArg (fun name => wrongType (.record name) _) views.name

end

end RecordShape

end QueryCompiler.Json
