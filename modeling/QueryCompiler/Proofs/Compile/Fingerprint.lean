import QueryCompiler.Proofs.Compile.ReadBack
import QueryCompiler.Proofs.Descriptor.Same

/-!
# Fingerprints of equal descriptors

Equal descriptors share a fingerprint if they are written alike.  Equality alone is
not enough: the text keeps the order of keys, which equality disregards.
-/

namespace QueryCompiler

open Json

/-- Descriptors that are handed on, are equal and list their keys in the same order
have one text and one fingerprint, when their zeros have the same signs. -/
theorem Descriptor.fingerprint_eq_of_same {descriptor other : Descriptor}
    (produced : descriptor.Produced) (otherProduced : other.Produced)
    (same : descriptor.same other = true) (aligned : Aligned descriptor.toJson other.toJson) :
    descriptor.canonicalText = other.canonicalText ∧
      descriptor.fingerprint = other.fingerprint := by
  have equal : descriptor = other :=
    eq_of_same produced.restorable otherProduced.restorable same aligned
  rw [equal]
  exact ⟨rfl, rfl⟩

/-- A page length that is asked for and the one by default, beside a comparison. -/
theorem fingerprint_eq_of_default_page :
    let context : Context := ⟨fun _ => .ok none, Filter.translate⟩
    let asked : Json := .object
      [("filter", .object [("age", ofUInt64 7)]), ("perPage", ofUInt64 20)]
    let default : Json := .object [("filter", .object [("age", ofUInt64 7)])]
    ∃ descriptor other,
      assemble context (.ofJson asked) .empty false = .ok (descriptor, []) ∧
      assemble context (.ofJson default) .empty false = .ok (other, []) ∧
      descriptor.Produced ∧ other.Produced ∧ descriptor.same other = true ∧
      Aligned descriptor.toJson other.toJson ∧
      descriptor.canonicalText = other.canonicalText ∧
      descriptor.fingerprint = other.fingerprint := by
  intro context asked default
  let descriptor : Descriptor :=
    ⟨.set 0, .set 20, .set [], [], none, .all [.compare "age" .eq (ofUInt64 7), .always], []⟩
  have assembled : assemble context (.ofJson asked) .empty false = .ok (descriptor, []) := by cbv
  have otherAssembled : assemble context (.ofJson default) .empty false = .ok (descriptor, []) := by
    cbv
  have produced : descriptor.Produced :=
    .assembled Filter.keepsWellFormed_translate (wellFormed_distinct asked) .absent assembled
  have otherProduced : descriptor.Produced :=
    .assembled Filter.keepsWellFormed_translate (wellFormed_distinct default) .absent otherAssembled
  have same : descriptor.same descriptor = true := by decide +kernel
  have aligned : Aligned descriptor.toJson descriptor.toJson := by
    simp [descriptor, Descriptor.toJson, Descriptor.toMembers, Slot.toMember, optionalMember,
      Predicate.toJson, Predicate.toJsonItems, Include.toJsonItems, orderToJson, ofUInt64,
      Aligned, AlignedItems, AlignedMembers]
  have agreed := Descriptor.fingerprint_eq_of_same produced otherProduced same aligned
  exact ⟨descriptor, descriptor, assembled, otherAssembled, produced, otherProduced, same,
    aligned, agreed⟩

/-- The same options in another order give an equal descriptor with another text. -/
theorem canonicalText_of_reordered_options :
    let context : Context := ⟨fun _ => .ok none, Filter.translate⟩
    let options : Json.Members := [("a", ofUInt64 1), ("b", ofUInt64 2)]
    let reordered : Json.Members := [("b", ofUInt64 2), ("a", ofUInt64 1)]
    ∃ descriptor other,
      assemble context .default { BaseDescriptor.empty with options := options } false =
        .ok (descriptor, []) ∧
      assemble context .default { BaseDescriptor.empty with options := reordered } false =
        .ok (other, []) ∧
      descriptor.same other = true ∧ descriptor.canonicalText ≠ other.canonicalText := by
  intro context options reordered
  let descriptor : Descriptor :=
    ⟨.set 0, .set 20, .set [], [], none, .all [.always, .always], options⟩
  let other : Descriptor := { descriptor with options := reordered }
  have assembled : assemble context .default { BaseDescriptor.empty with options := options }
      false = .ok (descriptor, []) := by cbv
  have otherAssembled : assemble context .default
      { BaseDescriptor.empty with options := reordered } false = .ok (other, []) := by cbv
  have same : descriptor.same other = true := by decide +kernel
  have texts : descriptor.canonicalText ≠ other.canonicalText := by decide +kernel
  exact ⟨descriptor, other, assembled, otherAssembled, same, texts⟩

end QueryCompiler
