import QueryCompiler.Proofs.Json.WellFormed

/-!
# Equal values that are laid out alike

Equality of values disregards the order of keys and the sign of a zero, and a text
shows both.  Two values that are equal, and `Aligned` in what equality disregards, are
one value (`eq_of_same`).
-/

namespace QueryCompiler

/-! ## Doubles -/

private theorem Binary64.eq_of_units_eq {x y : Binary64} (sign : x.negative = y.negative)
    (same : x.units = y.units) : x = y := by
  -- A larger exponent would take the other significand out of its range.
  have exponent_le : ∀ {x y : Binary64}, x.units = y.units → y.exponent ≤ x.exponent := by
    intro x y same
    by_cases smaller : x.exponent < y.exponent
    · obtain ⟨gap, gapEq⟩ := Nat.exists_eq_add_of_lt smaller
      have normal : Nat.pow 2 52 ≤ y.significand := y.normal.resolve_left (by omega)
      have positive : 0 < Nat.pow 2 x.exponent := Nat.two_pow_pos x.exponent
      have power : Nat.pow 2 y.exponent = 2 * Nat.pow 2 gap * Nat.pow 2 x.exponent := by
        rw [gapEq, Nat.pow_eq, Nat.pow_eq, Nat.pow_eq, Nat.pow_succ, Nat.pow_add]
        ac_rfl
      have significand : x.significand = y.significand * (2 * Nat.pow 2 gap) := by
        rw [units, units, power, ← Nat.mul_assoc] at same
        exact Nat.eq_of_mul_eq_mul_right positive same
      have gapPositive : 1 ≤ Nat.pow 2 gap := Nat.two_pow_pos gap
      have large : Nat.pow 2 52 * (2 * 1) ≤ y.significand * (2 * Nat.pow 2 gap) :=
        Nat.mul_le_mul normal (Nat.mul_le_mul_left 2 gapPositive)
      have bound := x.significand_lt
      have twice : Nat.pow 2 53 = Nat.pow 2 52 * (2 * 1) := rfl
      omega
    · exact Nat.le_of_not_lt smaller
  have exponent : x.exponent = y.exponent :=
    Nat.le_antisymm (exponent_le same.symm) (exponent_le same)
  have significand : x.significand = y.significand := by
    rw [units, units, exponent] at same
    exact Nat.eq_of_mul_eq_mul_right (Nat.two_pow_pos y.exponent) same
  cases x
  cases y
  simp_all

private theorem Binary64.eq_of_sameValue {x y : Binary64} (sign : x.negative = y.negative)
    (same : x.sameValue y = true) : x = y := by
  have signed : x.signedUnits = y.signedUnits := eq_of_beq same
  have units : x.units = y.units := by
    rw [signedUnits, signedUnits, sign] at signed
    split at signed <;> omega
  exact eq_of_units_eq sign units

namespace Json

/-! ## Alignment -/

mutual

/-- Zeros at the same place have one sign, and objects at the same place list the same
keys in the same order. -/
def Aligned : Json → Json → Prop
  | .number (.float x), .number (.float y) => x.negative = y.negative
  | .array items, .array others => AlignedItems items others
  | .object members, .object others => AlignedMembers members others
  | _, _ => True

def AlignedItems : List Json → List Json → Prop
  | item :: items, other :: others => Aligned item other ∧ AlignedItems items others
  | _, _ => True

/-- Members have the same keys in the same order, and aligned values. -/
def AlignedMembers : List (String × Json) → List (String × Json) → Prop
  | [], [] => True
  | (key, value) :: members, (other, otherValue) :: others =>
      key = other ∧ Aligned value otherValue ∧ AlignedMembers members others
  | _, _ => False

end

theorem AlignedMembers.lookup {members others : Members} (aligned : AlignedMembers members others)
    {key : String} {value other : Json} (found : members.lookup key = some value)
    (otherFound : others.lookup key = some other) : Aligned value other := by
  induction members generalizing others with
  | nil => cases found
  | cons member members inductionHypothesis =>
      obtain ⟨name, first⟩ := member
      cases others with
      | nil => cases otherFound
      | cons otherMember others =>
          obtain ⟨otherName, otherFirst⟩ := otherMember
          rw [AlignedMembers] at aligned
          obtain ⟨rfl, alignedFirst, alignedRest⟩ := aligned
          rw [List.lookup_cons] at found otherFound
          by_cases here : (key == name) = true
          · rw [here] at found otherFound
            cases found
            cases otherFound
            exact alignedFirst
          · rw [eq_false_of_ne_true here] at found otherFound
            exact inductionHypothesis alignedRest found otherFound

theorem AlignedMembers.filter {members others : Members} (aligned : AlignedMembers members others)
    (keep : String → Bool) :
    AlignedMembers (members.filter fun member => keep member.1)
      (others.filter fun member => keep member.1) := by
  induction members generalizing others with
  | nil =>
      cases others with
      | nil => exact aligned
      | cons other others => exact aligned.elim
  | cons member members inductionHypothesis =>
      obtain ⟨name, first⟩ := member
      cases others with
      | nil => exact aligned.elim
      | cons otherMember others =>
          obtain ⟨otherName, otherFirst⟩ := otherMember
          rw [AlignedMembers] at aligned
          obtain ⟨rfl, alignedFirst, alignedRest⟩ := aligned
          have rest := inductionHypothesis alignedRest
          rw [List.filter_cons, List.filter_cons]
          by_cases kept : keep name = true
          · rw [if_pos kept, if_pos kept, AlignedMembers]
            exact ⟨rfl, alignedFirst, rest⟩
          · rw [if_neg kept, if_neg kept]
            exact rest

/-- What a list with distinct keys holds is found under its key. -/
theorem lookup_of_mem {members : Members} (nodup : (members.map Prod.fst).Nodup) {key : String}
    {value : Json} (member : (key, value) ∈ members) : members.lookup key = some value := by
  induction members with
  | nil => cases member
  | cons head members inductionHypothesis =>
      obtain ⟨first, rest⟩ := List.nodup_cons.mp nodup
      rcases List.mem_cons.mp member with rfl | later
      · exact List.lookup_cons_self
      · have different : (key == head.1) = false := by
          rw [beq_eq_false_iff_ne]
          rintro rfl
          exact first (List.mem_map.mpr ⟨_, later, rfl⟩)
        rw [List.lookup_cons, different]
        exact inductionHypothesis rest later

mutual

theorem eq_of_same : ∀ {value other : Json}, other.WellFormed → value.same other = true →
    Aligned value other → value = other
  | .null, other, _, same, _ => by cases other <;> simp [Json.same] at same ⊢
  | .bool value, other, _, same, _ => by cases other <;> simp_all [Json.same]
  | .string value, other, _, same, _ => by cases other <;> simp_all [Json.same]
  | .number value, other, _, same, aligned => by
      cases other with
      | number other =>
          rw [Json.same] at same
          cases value <;> cases other <;> simp [Number.same] at same
          · rw [same]
          · rw [same]
          · rw [Aligned] at aligned
            rw [Binary64.eq_of_sameValue aligned same]
      | _ => simp [Json.same] at same
  | .array items, other, wellFormed, same, aligned => by
      cases other with
      | array others =>
          rw [Json.same] at same
          rw [Aligned] at aligned
          rw [eq_of_sameItems wellFormed.item same aligned]
      | _ => simp [Json.same] at same
  | .object members, other, wellFormed, same, aligned => by
      cases other with
      | object others =>
          rw [Json.same, Bool.and_eq_true] at same
          rw [Aligned] at aligned
          have pointwise : ∀ member ∈ others, others.lookup member.1 = some member.2 :=
            fun member found => lookup_of_mem wellFormed.nodup_keys found
          rw [eq_of_sameMembers wellFormed.member pointwise same.2 aligned]
      | _ => simp [Json.same] at same

private theorem eq_of_sameItems :
    ∀ {items others : List Json}, (∀ other ∈ others, other.WellFormed) →
    sameItems items others = true → AlignedItems items others → items = others
  | [], [], _, _, _ => rfl
  | [], _ :: _, _, same, _ => by simp [sameItems] at same
  | _ :: _, [], _, same, _ => by simp [sameItems] at same
  | item :: items, other :: others, wellFormed, same, aligned => by
      obtain ⟨first, rest⟩ := List.forall_mem_cons.mp wellFormed
      rw [sameItems, Bool.and_eq_true] at same
      rw [AlignedItems] at aligned
      rw [eq_of_same first same.1 aligned.1, eq_of_sameItems rest same.2 aligned.2]

private theorem eq_of_sameMembers : ∀ {members others whole : List (String × Json)},
    (∀ other ∈ others, other.2.WellFormed) →
    (∀ other ∈ others, whole.lookup other.1 = some other.2) →
    sameMembers members whole = true → AlignedMembers members others → members = others
  | [], [], _, _, _, _, _ => rfl
  | [], _ :: _, _, _, _, _, aligned => by simp [AlignedMembers] at aligned
  | _ :: _, [], _, _, _, _, aligned => by simp [AlignedMembers] at aligned
  | (key, value) :: members, (otherKey, otherValue) :: others, whole, wellFormed, pointwise, same,
    aligned => by
      obtain ⟨firstWellFormed, restWellFormed⟩ := List.forall_mem_cons.mp wellFormed
      obtain ⟨first, rest⟩ := List.forall_mem_cons.mp pointwise
      rw [AlignedMembers] at aligned
      obtain ⟨rfl, alignedValue, alignedRest⟩ := aligned
      rw [sameMembers, first, Bool.and_eq_true] at same
      rw [eq_of_same firstWellFormed same.1 alignedValue,
        eq_of_sameMembers restWellFormed rest same.2 alignedRest]

end

end Json

end QueryCompiler
