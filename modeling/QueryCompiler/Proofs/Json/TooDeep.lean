import QueryCompiler.Proofs.Json.Nesting
import QueryCompiler.Proofs.Json.Record

/-!
# Values that are nested too deep are refused

A list or a record whose parts are refused when they are nested too deep is refused
as well.  The parts before the first that is too deep are decoded as they stand.
-/

namespace QueryCompiler.Json

variable {α σ : Type} {limit : Nat}

/-- The decoder refuses the value if it goes beyond the limit. -/
def Refuses (decode : Decoder α) (limit : Nat) (value : Json) : Prop :=
  limit < value.depth → decode (Draft.limited limit value) = .error (.malformed .nestedTooDeep)

theorem refuses_of_depth_le {decode : Decoder α} {value : Json} (shallow : value.depth ≤ limit) :
    Refuses decode limit value := by
  intro deep
  omega

/-- What is read as a whole is refused. -/
theorem refuses_bind_read (decode : Json → Except ReadError α) (value : Json) :
    Refuses (fun draft => draft.read >>= decode) limit value := by
  intro deep
  simp only [Draft.read_limited_of_lt_depth deep, Outcome.error_bind]

private theorem refuses_value (value : Json) : Refuses Draft.value limit value := by
  intro deep
  rw [Draft.value, Draft.read_limited_of_lt_depth deep, Outcome.map_error]

/-! ## Lists -/

private theorem decodeItems_limited_of_lt_depth {decode : Decoder α} {items : List Json}
    (refuses : ∀ item ∈ items, Refuses decode limit item)
    (accepts : ∀ item ∈ items, ∃ value, decode (Draft.ofJson item) = .ok value)
    (deep : limit < depthOfItems items) :
    decodeItems decode (Draft.limitedItems limit items) = .error (.malformed .nestedTooDeep) := by
  induction items with
  | nil =>
      rw [depthOfItems] at deep
      omega
  | cons item items inductionHypothesis =>
      obtain ⟨firstRefuses, restRefuses⟩ := List.forall_mem_cons.mp refuses
      obtain ⟨⟨value, firstAccepted⟩, restAccepts⟩ := List.forall_mem_cons.mp accepts
      rw [Draft.limitedItems, decodeItems]
      by_cases first : limit < item.depth
      · rw [firstRefuses first, Outcome.error_bind]
      · have later := (lt_depthOfItems_cons.mp deep).resolve_left first
        rw [Draft.limited_eq_ofJson (Nat.le_of_not_lt first), firstAccepted, Outcome.ok_bind,
          inductionHypothesis restRefuses restAccepts later, Outcome.error_bind]

theorem refuses_list {decode : Decoder α} {items : List Json}
    (refuses : ∀ inner, ∀ item ∈ items, Refuses decode inner item)
    (accepts : ∀ item ∈ items, ∃ value, decode (Draft.ofJson item) = .ok value) :
    Refuses (decodeList decode) limit (.array items) := by
  intro deep
  rw [depth] at deep
  rw [Draft.limited, limitDepth]
  by_cases none : limit = 0
  · rw [if_pos none]
    rfl
  · rw [if_neg none, decodeList,
      decodeItems_limited_of_lt_depth (refuses (limit - 1)) accepts (by omega)]
    rfl

/-! ## Open records -/

namespace RecordShape

variable {shape : RecordShape σ α}

private theorem setOpenMembers_others_of_lt_depth {others : Members}
    (free : ∀ member ∈ others, member.1 ∉ shape.fields) (deep : limit < depthOfMembers others)
    (seen : List String) (partly : σ) :
    shape.setOpenMembers seen partly (Draft.limitedMembers limit others) =
      .error (.malformed .nestedTooDeep) := by
  induction others with
  | nil =>
      rw [depthOfMembers] at deep
      omega
  | cons member others inductionHypothesis =>
      obtain ⟨key, value⟩ := member
      obtain ⟨firstFree, restFree⟩ := List.forall_mem_cons.mp free
      have unknown : ¬ shape.fields.contains key = true := fun known =>
        firstFree (List.contains_iff_mem.mp known)
      rw [Draft.limitedMembers, setOpenMembers, Draft.readKey_ok, Outcome.ok_bind, if_neg unknown]
      by_cases first : limit < value.depth
      · rw [refuses_value value first, Outcome.error_bind]
      · have later := (lt_depthOfMembers_cons.mp deep).resolve_left first
        cases read : Draft.value (Draft.limited limit value) with
        | error error =>
            rw [Draft.limited_eq_ofJson (Nat.le_of_not_lt first), Draft.value,
              Draft.read_ofJson] at read
            cases read
        | ok kept => rw [Outcome.ok_bind, inductionHypothesis restFree later, Outcome.error_bind]

/-- Fields that were not seen are set one after another, up to the first value that is
nested too deep. -/
theorem setOpenMembers_limited_of_lt_depth {members others : Members} {before after : σ}
    (fills : Fills shape.Sets before members after) {seen : List String}
    (nodup : (members.map Prod.fst).Nodup)
    (known : ∀ key ∈ members.map Prod.fst, key ∈ shape.fields)
    (fresh : ∀ key ∈ members.map Prod.fst, key ∉ seen)
    (free : ∀ member ∈ others, member.1 ∉ shape.fields)
    (refuses : ∀ member ∈ members, ∀ partly,
      Refuses (fun draft => shape.set member.1 draft partly) limit member.2)
    (deep : limit < depthOfMembers (members ++ others)) :
    shape.setOpenMembers seen before (Draft.limitedMembers limit (members ++ others)) =
      .error (.malformed .nestedTooDeep) := by
  induction fills generalizing seen with
  | done partly => exact setOpenMembers_others_of_lt_depth free deep seen partly
  | @step key value members before between after first rest inductionHypothesis =>
      simp only [List.map_cons, List.nodup_cons] at nodup
      simp only [List.map_cons, List.forall_mem_cons] at known fresh
      obtain ⟨firstRefuses, restRefuses⟩ := List.forall_mem_cons.mp refuses
      rw [List.cons_append, Draft.limitedMembers, setOpenMembers, Draft.readKey_ok,
        Outcome.ok_bind, if_pos (List.contains_iff_mem.mpr known.1),
        if_neg (fun repeated => fresh.1 (List.contains_iff_mem.mp repeated))]
      by_cases tooDeep : limit < value.depth
      · have refused : shape.set key (Draft.limited limit value) before =
            .error (.malformed .nestedTooDeep) := firstRefuses before tooDeep
        rw [refused, Outcome.error_bind]
      · have set : shape.set key (Draft.ofJson value) before = .ok between := first
        have later := (lt_depthOfMembers_cons.mp deep).resolve_left tooDeep
        rw [Draft.limited_eq_ofJson (Nat.le_of_not_lt tooDeep), set, Outcome.ok_bind,
          inductionHypothesis nodup.2 known.2 (not_mem_seen_cons nodup.1 fresh.2) restRefuses
            later]

end RecordShape

/-- An open record is refused if its fields refuse what is nested too deep. -/
theorem refuses_decodeOpen {shape : RecordShape σ (Members → α)} {members others : Members}
    {partly : σ} (fills : Fills shape.Sets shape.empty members partly)
    (keys : (members.map Prod.fst).Sublist shape.fields) (nodup : shape.fields.Nodup)
    (free : ∀ member ∈ others, member.1 ∉ shape.fields)
    (refuses : ∀ member ∈ members, ∀ partly,
      Refuses (fun draft => shape.set member.1 draft partly) (limit - 1) member.2) :
    Refuses shape.decodeOpen limit (.object (members ++ others)) := by
  intro deep
  rw [depth] at deep
  rw [Draft.limited, limitDepth]
  by_cases none : limit = 0
  · rw [if_pos none]
    rfl
  · have fresh : ∀ key ∈ members.map Prod.fst, key ∉ [] := fun _ _ => List.not_mem_nil
    have refused := RecordShape.setOpenMembers_limited_of_lt_depth fills (keys.nodup nodup)
      (fun _ member => keys.subset member) fresh free refuses (by omega)
    rw [if_neg none, RecordShape.decodeOpen, refused]
    rfl

end QueryCompiler.Json
