import QueryCompiler.Proofs.Json.Reading

/-!
# Values of bounded nesting

The values that a text can carry without loss have integers for numbers, and lists
and objects nested up to a limit.  A list or an object takes one level of it, and
leaves the rest to what it holds.
-/

namespace QueryCompiler.Json

/-- All numbers are integers of 64 bits, and at most so many lists and objects are
nested within each other. -/
structure Within (limit : Nat) (value : Json) : Prop where
  integral : value.Integral
  depth_le : value.depth ≤ limit

theorem depthOfItems_le_iff {items : List Json} {limit : Nat} :
    depthOfItems items ≤ limit ↔ ∀ item ∈ items, item.depth ≤ limit := by
  induction items with
  | nil => simp [depthOfItems]
  | cons item items inductionHypothesis =>
      rw [depthOfItems, Nat.max_le, inductionHypothesis, List.forall_mem_cons]

theorem depthOfMembers_le_iff {members : Members} {limit : Nat} :
    depthOfMembers members ≤ limit ↔ ∀ member ∈ members, member.2.depth ≤ limit := by
  induction members with
  | nil => simp [depthOfMembers]
  | cons member members inductionHypothesis =>
      rw [depthOfMembers, Nat.max_le, inductionHypothesis, List.forall_mem_cons]

namespace Within

variable {limit : Nat}

theorem mono {greater : Nat} {value : Json} (within : value.Within limit)
    (le : limit ≤ greater) : value.Within greater :=
  ⟨within.integral, Nat.le_trans within.depth_le le⟩

/-! ## Single values -/

theorem null : Json.null.Within limit := ⟨.null, Nat.zero_le _⟩

theorem bool (value : Bool) : (Json.bool value).Within limit := ⟨.bool value, Nat.zero_le _⟩

theorem ofUInt64 (value : UInt64) : (Json.ofUInt64 value).Within limit :=
  ⟨.natural value, Nat.zero_le _⟩

theorem string (value : String) : (Json.string value).Within limit :=
  ⟨.string value, Nat.zero_le _⟩

/-! ## Lists and objects -/

theorem array {items : List Json} (each : ∀ item ∈ items, item.Within limit) :
    (Json.array items).Within (limit + 1) := by
  refine ⟨.array fun item member => (each item member).integral, ?_⟩
  rw [depth]
  have shallow := depthOfItems_le_iff.mpr fun item member => (each item member).depth_le
  exact Nat.succ_le_succ shallow

theorem object {members : Members} (each : ∀ member ∈ members, member.2.Within limit) :
    (Json.object members).Within (limit + 1) := by
  refine ⟨.object fun member found => (each member found).integral, ?_⟩
  rw [depth]
  have shallow := depthOfMembers_le_iff.mpr fun member found => (each member found).depth_le
  exact Nat.succ_le_succ shallow

/-- A list takes one level. -/
theorem items {items : List Json} (within : (Json.array items).Within limit) :
    ∃ inner, limit = inner + 1 ∧ ∀ item ∈ items, item.Within inner := by
  obtain ⟨integral, shallow⟩ := within
  rw [depth] at shallow
  refine ⟨limit - 1, by omega, fun item member => ?_⟩
  have itemShallow := depthOfItems_le_iff.mp (Nat.le_sub_of_add_le shallow) item member
  cases integral with
  | array each => exact ⟨each item member, itemShallow⟩

/-- An object takes one level. -/
theorem members {members : Members} (within : (Json.object members).Within limit) :
    ∃ inner, limit = inner + 1 ∧ ∀ member ∈ members, member.2.Within inner := by
  obtain ⟨integral, shallow⟩ := within
  rw [depth] at shallow
  refine ⟨limit - 1, by omega, fun member found => ?_⟩
  have memberShallow := depthOfMembers_le_iff.mp (Nat.le_sub_of_add_le shallow) member found
  cases integral with
  | object each => exact ⟨each member found, memberShallow⟩

theorem strings (texts : List String) : (Json.ofStrings texts).Within (limit + 1) :=
  array (List.forall_mem_map.mpr fun text _ => string text)

end Within

end QueryCompiler.Json
