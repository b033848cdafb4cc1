import QueryCompiler.Json.Draft
import QueryCompiler.Proofs.Outcome

/-!
# Values without repeated keys

A value that is held in memory names no key twice within one object
(`Json.WellFormed`).  `distinct` brings every value into that form and leaves
the values of that form alone, and a value passes through its draft unchanged.
-/

namespace QueryCompiler.Json

/-- No object within the value names a key twice. -/
inductive WellFormed : Json → Prop
  | null : WellFormed .null
  | bool (value : Bool) : WellFormed (.bool value)
  | number (value : Number) : WellFormed (.number value)
  | string (value : String) : WellFormed (.string value)
  | array {items : List Json} (each : ∀ item ∈ items, WellFormed item) :
      WellFormed (.array items)
  | object {members : Members} (nodup : (members.map Prod.fst).Nodup)
      (each : ∀ member ∈ members, WellFormed member.2) : WellFormed (.object members)

namespace WellFormed

theorem item {items : List Json} (wellFormed : WellFormed (.array items)) :
    ∀ item ∈ items, item.WellFormed := by
  cases wellFormed with
  | array each => exact each

theorem member {members : Members} (wellFormed : WellFormed (.object members)) :
    ∀ member ∈ members, member.2.WellFormed := by
  cases wellFormed with
  | object nodup each => exact each

theorem nodup_keys {members : Members} (wellFormed : WellFormed (.object members)) :
    (members.map Prod.fst).Nodup := by
  cases wellFormed with
  | object nodup each => exact nodup

/-- What stands under a key of a well-formed object is well-formed. -/
theorem of_lookup {members : Members} (wellFormed : WellFormed (.object members))
    {key : String} {value : Json} (found : members.lookup key = some value) :
    value.WellFormed := by
  obtain ⟨before, after, shape, _⟩ := List.lookup_eq_some_iff.mp found
  apply wellFormed.member (key, value)
  rw [shape]
  simp

end WellFormed

/-! ## Distinct members -/

private theorem setMember_of_not_mem {α : Type} {key : String} (value : α)
    {members : List (String × α)} (fresh : key ∉ members.map Prod.fst) :
    setMember key value members = members ++ [(key, value)] := by
  induction members with
  | nil => rfl
  | cons member members inductionHypothesis =>
      simp only [List.map_cons, List.mem_cons, not_or] at fresh
      rw [setMember, if_neg (Ne.symm fresh.1), inductionHypothesis fresh.2]
      rfl

private theorem mem_of_mem_setMember {α : Type} {key : String} {value : α}
    {members : List (String × α)} {member : String × α}
    (found : member ∈ setMember key value members) :
    member = (key, value) ∨ member ∈ members := by
  induction members with
  | nil => exact Or.inl (List.mem_singleton.mp found)
  | cons first members inductionHypothesis =>
      rw [setMember] at found
      split at found
      · rcases List.mem_cons.mp found with set | kept
        · exact Or.inl set
        · exact Or.inr (List.mem_cons_of_mem first kept)
      · rcases List.mem_cons.mp found with same | later
        · exact Or.inr (same ▸ List.mem_cons_self)
        · rcases inductionHypothesis later with set | kept
          · exact Or.inl set
          · exact Or.inr (List.mem_cons_of_mem first kept)

/-- Members with keys of their own stay as they are. -/
theorem distinctMembers_of_nodup {α : Type} {members : List (String × α)}
    (nodup : (members.map Prod.fst).Nodup) : distinctMembers members = members := by
  suffices general : ∀ (later before : List (String × α)),
      ((before ++ later).map Prod.fst).Nodup →
        later.foldl (fun members pair => setMember pair.1 pair.2 members) before =
          before ++ later from general members [] nodup
  intro later
  induction later with
  | nil =>
      intro before _
      exact (List.append_nil before).symm
  | cons member later inductionHypothesis =>
      intro before nodup
      have fresh : member.1 ∉ before.map Prod.fst := by
        rw [List.map_append, List.nodup_append] at nodup
        intro repeated
        exact nodup.2.2 _ repeated _ List.mem_cons_self rfl
      rw [List.foldl_cons, setMember_of_not_mem member.2 fresh,
        inductionHypothesis (before ++ [(member.1, member.2)]) (by simpa using nodup)]
      simp

theorem mem_of_mem_distinctMembers {α : Type} {members : List (String × α)}
    {member : String × α} (found : member ∈ distinctMembers members) : member ∈ members := by
  suffices general : ∀ (later before : List (String × α)),
      member ∈ later.foldl (fun members pair => setMember pair.1 pair.2 members) before →
        member ∈ before ∨ member ∈ later by
    rcases general members [] found with absent | present
    · exact absurd absent List.not_mem_nil
    · exact present
  intro later
  induction later with
  | nil => exact fun _ found => Or.inl found
  | cons pair later inductionHypothesis =>
      intro before found
      rcases inductionHypothesis _ found with early | late
      · rcases mem_of_mem_setMember early with set | kept
        · exact Or.inr (set ▸ List.mem_cons_self)
        · exact Or.inl kept
      · exact Or.inr (List.mem_cons_of_mem pair late)

/-! ## Distinct values -/

private theorem distinctItems_eq_map (items : List Json) :
    distinctItems items = items.map distinct := by
  induction items with
  | nil => rfl
  | cons item items inductionHypothesis =>
      rw [distinctItems, inductionHypothesis, List.map_cons]

private theorem distinctValues_eq_map (members : Members) :
    distinctValues members = members.map fun member => (member.1, member.2.distinct) := by
  induction members with
  | nil => rfl
  | cons member members inductionHypothesis =>
      rw [distinctValues, inductionHypothesis, List.map_cons]

/-- A value without repeated keys is left alone. -/
theorem WellFormed.distinct_eq {value : Json} (wellFormed : value.WellFormed) :
    value.distinct = value := by
  induction wellFormed with
  | null => rfl
  | bool value => rfl
  | number value => rfl
  | string value => rfl
  | @array items each inductionHypothesis =>
      have unchanged : items.map distinct = items := by
        conv => rhs; rw [← List.map_id items]
        exact List.map_congr_left inductionHypothesis
      rw [distinct, distinctItems_eq_map, unchanged]
  | @object members nodup each inductionHypothesis =>
      have unchanged : (members.map fun member => (member.1, member.2.distinct)) = members := by
        conv => rhs; rw [← List.map_id members]
        apply List.map_congr_left
        intro member found
        exact Prod.ext rfl (inductionHypothesis member found)
      rw [distinct, distinctValues_eq_map, unchanged, distinctMembers_of_nodup nodup]

mutual

/-- With every repeated key set once, a value has none left. -/
theorem wellFormed_distinct : ∀ value : Json, value.distinct.WellFormed
  | .null => .null
  | .bool value => .bool value
  | .number value => .number value
  | .string value => .string value
  | .array items => .array (wellFormed_distinctItems items)
  | .object members =>
      .object (nodup_keys_distinctMembers _) fun member found =>
        wellFormed_distinctValues members member (mem_of_mem_distinctMembers found)

private theorem wellFormed_distinctItems :
    ∀ items : List Json, ∀ item ∈ distinctItems items, item.WellFormed
  | [] => List.forall_mem_nil _
  | item :: items =>
      List.forall_mem_cons.mpr ⟨wellFormed_distinct item, wellFormed_distinctItems items⟩

private theorem wellFormed_distinctValues :
    ∀ members : List (String × Json),
      ∀ member ∈ distinctValues members, member.2.WellFormed
  | [] => List.forall_mem_nil _
  | (_, value) :: members =>
      List.forall_mem_cons.mpr ⟨wellFormed_distinct value, wellFormed_distinctValues members⟩

end

/-! ## Values as drafts -/

namespace Draft

@[simp]
theorem readKey_ok (key : String) : readKey (.ok key) = .ok key := rfl

mutual

/-- Reading the draft of a value gives the value. -/
theorem read_ofJson : ∀ value : Json, (ofJson value).read = .ok value
  | .null => rfl
  | .bool _ => rfl
  | .number _ => rfl
  | .string _ => rfl
  | .array items => by
      rw [ofJson, read, readItems_ofItems items]
      rfl
  | .object members => by
      rw [ofJson, read, readMembers_ofMembers members]
      rfl

private theorem readItems_ofItems : ∀ items : List Json, readItems (ofItems items) = .ok items
  | [] => rfl
  | item :: items => by
      rw [ofItems, readItems, read_ofJson item, readItems_ofItems items]
      rfl

private theorem readMembers_ofMembers :
    ∀ members : List (String × Json), readMembers (ofMembers members) = .ok members
  | [] => rfl
  | (key, value) :: members => by
      rw [ofMembers, readMembers, read_ofJson value, readMembers_ofMembers members]
      rfl

end

theorem value_ofJson {value : Json} (wellFormed : value.WellFormed) :
    (ofJson value).value = .ok value := by
  rw [Draft.value, read_ofJson, Outcome.map_ok, wellFormed.distinct_eq]

theorem ofJson_ne_null {value : Json} (present : value ≠ .null) : ofJson value ≠ .null := by
  cases value with
  | null => exact absurd rfl present
  | _ => exact Draft.noConfusion

/-- Only null is read as null. -/
theorem eq_null_of_value {draft : Draft} (read : draft.value = .ok .null) : draft = .null := by
  obtain ⟨raw, rawRead, distinctNull⟩ := Outcome.map_eq_ok.mp read
  have rawNull : raw = .null := by
    cases raw with
    | null => rfl
    | _ => cases distinctNull
  subst rawNull
  cases draft with
  | null => rfl
  | array items ending =>
      obtain ⟨_, _, rawRead⟩ := Outcome.bind_eq_ok.mp rawRead
      obtain ⟨_, _, last⟩ := Outcome.bind_eq_ok.mp rawRead
      cases last
  | object members ending =>
      obtain ⟨_, _, rawRead⟩ := Outcome.bind_eq_ok.mp rawRead
      obtain ⟨_, _, last⟩ := Outcome.bind_eq_ok.mp rawRead
      cases last
  | _ => cases rawRead

/-- The value of a draft names no key twice. -/
theorem wellFormed_of_value {draft : Draft} {value : Json} (read : draft.value = .ok value) :
    value.WellFormed := by
  obtain ⟨raw, _, rfl⟩ := Outcome.map_eq_ok.mp read
  exact wellFormed_distinct raw

end Draft

end QueryCompiler.Json
