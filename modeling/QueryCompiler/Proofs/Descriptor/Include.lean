import QueryCompiler.Descriptor.Include
import QueryCompiler.Proofs.Descriptor.Order
import QueryCompiler.Proofs.Predicate.RoundTrip

/-!
# Included associations are read back as they were written

Attributes that are null would be read as missing, and so would a repeated key
within a value.  An entry without either is restorable: it is read back from what
was written for it (`decode_toJson`), and no other entry is ever read
(`decode_yields`).
-/

namespace QueryCompiler

open Json

/-- The options of an expansion that are read back. -/
structure Expansion.Restorable (expansion : Expansion) : Prop where
  condition : ∀ predicate ∈ expansion.condition, predicate.WellFormed
  attributes : ∀ value ∈ expansion.attributes, value.WellFormed ∧ value ≠ .null

namespace Include

/-- An entry that is read back, with all entries within it. -/
inductive Restorable : Include → Prop
  | name (association : String) : Restorable (.name association)
  | expand {expansion : Expansion} {nested : List Include} (options : expansion.Restorable)
      (entries : ∀ entry ∈ nested, Restorable entry) : Restorable (.expand expansion nested)

theorem toJsonItems_eq_map (entries : List Include) : toJsonItems entries = entries.map toJson := by
  induction entries with
  | nil => rfl
  | cons entry entries inductionHypothesis =>
      rw [toJsonItems, inductionHypothesis, List.map_cons]

/-! ## Filling an expansion -/

namespace Partial

/-- What becomes of a partial expansion when a member is set in it. -/
inductive Sets : String → Json → Partial → Partial → Prop
  | entries {value : Json} {nested : List Include} {before : Partial}
      (read : listOfContent? value = some nested) :
      Sets "include" value before { before with nested := nested }
  | field {key : String} {value : Json} {before after : Partial} (other : key ≠ "include")
      (set : Partial.set .buffered key (Draft.ofJson value) before = .ok after) :
      Sets key value before after

/-- The whole of an expansion. -/
def ofExpansion (expansion : Expansion) (nested : List Include) : Partial where
  targetKey := some expansion.targetKey
  target := some expansion.target
  name := some expansion.name
  condition := expansion.condition
  isRequired := expansion.isRequired
  limit := expansion.limit
  separate := expansion.separate
  order := expansion.order
  attributes := expansion.attributes
  nested := nested

end Partial

private theorem setMembers?_of_fills {members : Json.Members} {before after : Partial}
    (fills : Fills Partial.Sets before members after) {seen : List String}
    (nodup : (members.map Prod.fst).Nodup)
    (known : ∀ key ∈ members.map Prod.fst, key ∈ fieldNames)
    (fresh : ∀ key ∈ members.map Prod.fst, key ∉ seen) :
    setMembers? seen before members = after.finish.toOption := by
  induction fills generalizing seen with
  | done partly => rfl
  | @step key value members before between after first rest inductionHypothesis =>
      simp only [List.map_cons, List.nodup_cons] at nodup
      simp only [List.map_cons, List.forall_mem_cons] at known fresh
      have later := @inductionHypothesis (key :: seen) nodup.2 known.2
        (not_mem_seen_cons nodup.1 fresh.2)
      have unseen : ¬ seen.contains key = true := fun repeated =>
        fresh.1 (List.contains_iff_mem.mp repeated)
      rw [setMembers?, if_neg unseen]
      cases first with
      | entries read =>
          rw [if_pos rfl, read]
          exact later
      | field other set =>
          have setValue : before.set? key value = some between := by
            rw [Partial.set?, set]
            rfl
          rw [if_neg other, if_pos (List.contains_iff_mem.mpr known.1), setValue]
          exact later

/-- The options of an expansion are set by the members that are written for them. -/
theorem fills_expansionMembers {expansion : Expansion} (restorable : expansion.Restorable) :
    Fills Partial.Sets .empty (expansionMembers expansion) (.ofExpansion expansion []) := by
  let target : Partial := { Partial.empty with
    targetKey := some expansion.targetKey, target := some expansion.target }
  let named : Partial := { target with name := some expansion.name }
  let conditioned : Partial := { named with condition := expansion.condition }
  let required : Partial := { conditioned with isRequired := expansion.isRequired }
  let limited : Partial := { required with limit := expansion.limit }
  let separated : Partial := { limited with separate := expansion.separate }
  let ordered : Partial := { separated with order := expansion.order }
  have start : Fills Partial.Sets .empty
      [("targetKey", .string expansion.targetKey), ("target", expansion.target.toJson),
        ("alias", .string expansion.name)] named := by
    have targetSet : Partial.Sets "target" expansion.target.toJson
        { Partial.empty with targetKey := some expansion.targetKey } target :=
      .field (by decide)
        (Outcome.bind_pure_of_ok (RelationHandle.decode_toJson expansion.target .buffered) _)
    exact .step (.field (by decide) rfl) (.step targetSet (.single (.field (by decide) rfl)))
  have condition : Fills Partial.Sets named
      (optionalMember "where" Predicate.toJson expansion.condition) conditioned := by
    refine Fills.optionalMember
      (fun condition => { named with condition := condition }) fun predicate member => ?_
    have decoded := Predicate.decode_toJson (restorable.condition predicate member) .buffered
    exact .field (by decide) (Outcome.bind_pure_of_ok
      (decodeOption_of_ok decoded predicate.ofJson_toJson_ne_null) _)
  have isRequired : Fills Partial.Sets conditioned
      (optionalMember "required" .bool expansion.isRequired) required :=
    Fills.optionalMember (fun isRequired => { conditioned with isRequired := isRequired })
      fun _ _ => .field (by decide) rfl
  have limit : Fills Partial.Sets required
      (optionalMember "limit" Json.ofUInt64 expansion.limit) limited :=
    Fills.optionalMember (fun limit => { required with limit := limit })
      fun _ _ => .field (by decide) rfl
  have separate : Fills Partial.Sets limited
      (optionalMember "separate" .bool expansion.separate) separated :=
    Fills.optionalMember (fun separate => { limited with separate := separate })
      fun _ _ => .field (by decide) rfl
  have order : Fills Partial.Sets separated
      (listMember "order" (expansion.order.map OrderTerm.toJson)) ordered := by
    refine Fills.listMember (fun order => { separated with order := order }) ?_
    exact .field (by decide) (Outcome.bind_pure_of_ok
      (OrderTerm.decodeList_orderToJson expansion.order .buffered) _)
  have attributes : Fills Partial.Sets ordered
      (optionalMember "attributes" id expansion.attributes) (.ofExpansion expansion []) := by
    refine Fills.optionalMember
      (fun attributes => { ordered with attributes := attributes }) fun value member => ?_
    obtain ⟨wellFormed, present⟩ := restorable.attributes value member
    exact .field (by decide) (Outcome.bind_pure_of_ok
      (decodeOption_of_ok (Draft.value_ofJson wellFormed) (Draft.ofJson_ne_null present)) _)
  exact start.append condition |>.append isRequired |>.append limit |>.append separate
    |>.append order |>.append attributes

/-- The keys of an expansion keep to the order of its fields. -/
theorem keys_expansion_sublist (expansion : Expansion) (nested : List Json) :
    ((expansionMembers expansion ++ listMember "include" nested).map Prod.fst).Sublist
      fieldNames := by
  simp only [expansionMembers, List.map_append]
  have start : (List.map Prod.fst
      [("targetKey", Json.string expansion.targetKey), ("target", expansion.target.toJson),
        ("alias", .string expansion.name)]).Sublist ["targetKey", "target", "alias"] :=
    List.Sublist.refl _
  exact start.append (keys_optionalMember_sublist "where" _ _)
    |>.append (keys_optionalMember_sublist "required" _ _)
    |>.append (keys_optionalMember_sublist "limit" _ _)
    |>.append (keys_optionalMember_sublist "separate" _ _)
    |>.append (keys_listMember_sublist "order" _)
    |>.append (keys_optionalMember_sublist "attributes" _ _)
    |>.append (keys_listMember_sublist "include" nested)

/-! ## Reading what was written -/

private theorem itemsOfContent?_map_toJson {entries : List Include}
    (each : ∀ entry ∈ entries, ofContent? entry.toJson = some entry) :
    itemsOfContent? (entries.map toJson) = some entries := by
  induction entries with
  | nil => rfl
  | cons entry entries inductionHypothesis =>
      obtain ⟨first, rest⟩ := List.forall_mem_cons.mp each
      rw [List.map_cons, itemsOfContent?, first, inductionHypothesis rest]
      rfl

private theorem ofContent?_toJson {entry : Include} (restorable : entry.Restorable) :
    ofContent? entry.toJson = some entry := by
  induction restorable with
  | name association => rfl
  | @expand expansion nested options entries inductionHypothesis =>
      have nestedFills : Fills Partial.Sets (.ofExpansion expansion [])
          (listMember "include" (nested.map toJson)) (.ofExpansion expansion nested) := by
        refine Fills.listMember (fun nested => Partial.ofExpansion expansion nested) ?_
        exact @Partial.Sets.entries _ nested (.ofExpansion expansion [])
          (itemsOfContent?_map_toJson inductionHypothesis)
      have fills := (fills_expansionMembers options).append nestedFills
      have keys := keys_expansion_sublist expansion (nested.map toJson)
      have nodup : fieldNames.Nodup := by decide
      rw [toJson, ofContent?, toJsonItems_eq_map,
        setMembers?_of_fills fills (keys.nodup nodup) (fun _ member => keys.subset member)
          fun _ _ => List.not_mem_nil]
      rfl

/-- An entry is decoded from the value that was written for it. -/
theorem decode_toJson {entry : Include} (restorable : entry.Restorable) :
    decode (Draft.ofJson entry.toJson) = .ok entry := by
  unfold decode
  rw [Draft.read_ofJson, Outcome.ok_bind, ofContent?_toJson restorable]
  rfl

theorem decodeList_toJsonItems {entries : List Include}
    (restorable : ∀ entry ∈ entries, entry.Restorable) :
    decodeList decode (Draft.ofJson (.array (toJsonItems entries))) = .ok entries := by
  rw [toJsonItems_eq_map]
  exact decodeList_ofJson fun entry member => decode_toJson (restorable entry member)

/-! ## What is read -/

/-- What the fields that were met hold is read back. -/
structure Partial.Restorable (fields : Partial) : Prop where
  condition : ∀ predicate ∈ fields.condition, predicate.WellFormed
  attributes : ∀ value ∈ fields.attributes, value.WellFormed ∧ value ≠ .null
  nested : ∀ entry ∈ fields.nested, entry.Restorable

private theorem Partial.restorable_empty : Partial.empty.Restorable where
  condition := fun _ member => nomatch member
  attributes := fun _ member => nomatch member
  nested := fun _ member => nomatch member

private theorem Partial.Restorable.setNested {fields : Partial} (restorable : fields.Restorable)
    {nested : List Include} (entries : ∀ entry ∈ nested, entry.Restorable) :
    { fields with nested := nested }.Restorable where
  condition := restorable.condition
  attributes := restorable.attributes
  nested := entries

/-- An optional value is never null. -/
theorem yields_attributes :
    Yields (decodeOption Draft.value) fun attributes =>
      ∀ value ∈ attributes, value.WellFormed ∧ value ≠ .null := by
  intro draft attributes decoded value member
  refine ⟨yields_value.option draft attributes decoded value member, ?_⟩
  unfold decodeOption at decoded
  split at decoded
  · cases decoded
    cases member
  · rename_i present
    obtain ⟨found, read, last⟩ := Outcome.map_eq_ok.mp decoded
    cases last
    cases member
    intro isNull
    exact present (Draft.eq_null_of_value (isNull ▸ read))

private theorem Partial.restorable_of_set {source : Source} {key : String} {draft : Draft}
    {before after : Partial} (restorable : before.Restorable)
    (set : Partial.set source key draft before = .ok after) : after.Restorable := by
  unfold Partial.set at set
  split at set
  case h_4 =>
    obtain ⟨condition, decoded, last⟩ := Outcome.bind_eq_ok.mp set
    cases last
    have wellFormed := (Predicate.decode_yields source).option draft condition decoded
    exact { restorable with condition := wellFormed }
  case h_9 =>
    obtain ⟨attributes, decoded, last⟩ := Outcome.bind_eq_ok.mp set
    cases last
    exact { restorable with attributes := yields_attributes draft attributes decoded }
  all_goals
    obtain ⟨_, _, last⟩ := Outcome.bind_eq_ok.mp set
    cases last
    exact ⟨restorable.condition, restorable.attributes, restorable.nested⟩

private theorem Partial.restorable_of_set? {key : String} {value : Json} {before after : Partial}
    (restorable : before.Restorable) (set : before.set? key value = some after) :
    after.Restorable := by
  unfold set? at set
  cases result : Partial.set .buffered key (Draft.ofJson value) before with
  | error error =>
      rw [result] at set
      cases set
  | ok reached =>
      rw [result] at set
      cases set
      exact restorable_of_set restorable result

private theorem Partial.Restorable.finish {fields : Partial} (restorable : fields.Restorable)
    {entry : Include} (finished : fields.finish.toOption = some entry) : entry.Restorable := by
  cases result : fields.finish with
  | error name =>
      rw [result] at finished
      cases finished
  | ok whole =>
      rw [result] at finished
      cases finished
      unfold Partial.finish at result
      obtain ⟨targetKey, _, result⟩ := Outcome.bind_eq_ok.mp result
      obtain ⟨target, _, result⟩ := Outcome.bind_eq_ok.mp result
      obtain ⟨name, _, last⟩ := Outcome.bind_eq_ok.mp result
      cases last
      exact .expand ⟨restorable.condition, restorable.attributes⟩ restorable.nested

mutual

/-- An entry that is read from a buffered value is read back. -/
theorem restorable_of_ofContent? :
    ∀ (value : Json) {entry : Include}, ofContent? value = some entry → entry.Restorable
  | .string association, _, read => by
      cases read
      exact .name association
  | .object members, _, read => by
      rw [ofContent?] at read
      exact restorable_of_setMembers? members Partial.restorable_empty read
  | .array items, _, read => by
      rw [ofContent?] at read
      exact restorable_of_setItems? items Partial.restorable_empty read
  | .null, _, read => nomatch read
  | .bool _, _, read => nomatch read
  | .number _, _, read => nomatch read

private theorem restorable_of_listOfContent? :
    ∀ (value : Json) {entries : List Include},
      listOfContent? value = some entries → ∀ entry ∈ entries, entry.Restorable
  | .array items, _, read => by
      rw [listOfContent?] at read
      exact restorable_of_itemsOfContent? items read
  | .null, _, read => nomatch read
  | .bool _, _, read => nomatch read
  | .number _, _, read => nomatch read
  | .string _, _, read => nomatch read
  | .object _, _, read => nomatch read

private theorem restorable_of_itemsOfContent? :
    ∀ (items : List Json) {entries : List Include},
      itemsOfContent? items = some entries → ∀ entry ∈ entries, entry.Restorable
  | [], _, read => by
      cases read
      exact List.forall_mem_nil _
  | item :: items, _, read => by
      rw [itemsOfContent?] at read
      obtain ⟨first, firstRead, read⟩ := Option.bind_eq_some_iff.mp read
      obtain ⟨rest, restRead, last⟩ := Option.bind_eq_some_iff.mp read
      cases last
      have firstRestorable := restorable_of_ofContent? item firstRead
      have restRestorable := restorable_of_itemsOfContent? items restRead
      exact List.forall_mem_cons.mpr ⟨firstRestorable, restRestorable⟩

private theorem restorable_of_setMembers? :
    ∀ (members : List (String × Json)) {seen : List String} {fields : Partial}
      {entry : Include},
      fields.Restorable → setMembers? seen fields members = some entry → entry.Restorable
  | [], _, _, _, restorable, read => by
      rw [setMembers?] at read
      exact restorable.finish read
  | (key, value) :: members, _, _, _, restorable, read => by
      rw [setMembers?] at read
      split at read
      · cases read
      · split at read
        · obtain ⟨nested, nestedRead, read⟩ := Option.bind_eq_some_iff.mp read
          have entries := restorable_of_listOfContent? value nestedRead
          exact restorable_of_setMembers? members (restorable.setNested entries) read
        · split at read
          · obtain ⟨fields, set, read⟩ := Option.bind_eq_some_iff.mp read
            exact restorable_of_setMembers? members (Partial.restorable_of_set? restorable set) read
          · exact restorable_of_setMembers? members restorable read

private theorem restorable_of_setItems? :
    ∀ (items : List Json) {names : List String} {fields : Partial} {entry : Include},
      fields.Restorable → setItems? fields names items = some entry → entry.Restorable
  | [], _, _, _, restorable, read => by
      rw [setItems?] at read
      exact restorable.finish read
  | item :: items, [], _, _, _, read => by
      rw [setItems?] at read
      cases read
  | item :: items, key :: names, _, _, restorable, read => by
      rw [setItems?] at read
      split at read
      · obtain ⟨nested, nestedRead, read⟩ := Option.bind_eq_some_iff.mp read
        have entries := restorable_of_listOfContent? item nestedRead
        exact restorable_of_setItems? items (restorable.setNested entries) read
      · obtain ⟨fields, set, read⟩ := Option.bind_eq_some_iff.mp read
        exact restorable_of_setItems? items (Partial.restorable_of_set? restorable set) read

end

/-- Every entry that is decoded is read back. -/
theorem decode_yields : Yields decode Restorable := by
  intro draft entry decoded
  unfold decode at decoded
  obtain ⟨value, _, decoded⟩ := Outcome.bind_eq_ok.mp decoded
  split at decoded
  · rename_i found read
    cases decoded
    exact restorable_of_ofContent? value read
  · cases decoded

end Include

end QueryCompiler
