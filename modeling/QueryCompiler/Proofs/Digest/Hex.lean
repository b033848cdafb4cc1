import Mathlib.Algebra.Group.Nat.Defs
import QueryCompiler.Digest.Sha256

/-!
# Digests from their hexadecimal digits

The digits of a digest tell its words.  So two texts with the same digits are one
text or collide.
-/

namespace QueryCompiler.Digest

/-- Two texts other than each other whose bytes have one digest. -/
def Collide (text other : String) : Prop :=
  text ≠ other ∧ sha256Words text.toUTF8.toList = sha256Words other.toUTF8.toList

private theorem length_hexDigits (digits value : Nat) :
    (hexDigits digits value).length = digits := by
  induction digits generalizing value with
  | zero => rfl
  | succ digits inductionHypothesis =>
      rw [hexDigits, List.length_append, inductionHypothesis, List.length_singleton]

private theorem eq_of_digitChar_eq :
    ∀ value < 16, ∀ other < 16, Nat.digitChar value = Nat.digitChar other → value = other := by
  decide

/-- So many digits tell a natural that they have room for. -/
theorem eq_of_hexDigits_eq {digits value other : Nat} (small : value < 16 ^ digits)
    (otherSmall : other < 16 ^ digits) (same : hexDigits digits value = hexDigits digits other) :
    value = other := by
  induction digits generalizing value other with
  | zero => omega
  | succ digits inductionHypothesis =>
      rw [Nat.pow_succ] at small otherSmall
      rw [hexDigits, hexDigits] at same
      have lengths : (hexDigits digits (value / 16)).length =
          (hexDigits digits (other / 16)).length := by
        rw [length_hexDigits, length_hexDigits]
      obtain ⟨front, last⟩ := List.append_inj same lengths
      have quotient : value / 16 = other / 16 :=
        inductionHypothesis (by omega) (by omega) front
      have remainder : value % 16 = other % 16 :=
        eq_of_digitChar_eq _ (by omega) _ (by omega) (List.cons.inj last).1
      omega

private theorem eq_of_flatMap_hexDigits_eq {words others : List UInt32}
    (same : words.flatMap (fun word => hexDigits 8 word.toNat) =
      others.flatMap fun word => hexDigits 8 word.toNat) : words = others := by
  have nonempty (word : UInt32) : hexDigits 8 word.toNat ≠ [] := by
    intro empty
    have length := length_hexDigits 8 word.toNat
    rw [empty] at length
    cases length
  induction words generalizing others with
  | nil =>
      cases others with
      | nil => rfl
      | cons other others =>
          have empty := List.append_eq_nil_iff.mp same.symm
          exact absurd empty.1 (nonempty other)
  | cons word words inductionHypothesis =>
      cases others with
      | nil =>
          have empty := List.append_eq_nil_iff.mp same
          exact absurd empty.1 (nonempty word)
      | cons other others =>
          rw [List.flatMap_cons, List.flatMap_cons] at same
          have lengths : (hexDigits 8 word.toNat).length = (hexDigits 8 other.toNat).length := by
            rw [length_hexDigits, length_hexDigits]
          obtain ⟨first, rest⟩ := List.append_inj same lengths
          have number := eq_of_hexDigits_eq word.toNat_lt other.toNat_lt first
          rw [UInt32.toNat_inj.mp number, inductionHypothesis rest]

/-- Texts with the same digits of their digests are one text, or collide. -/
theorem eq_or_collide_of_sha256Hex_eq {text other : String}
    (same : sha256Hex text = sha256Hex other) : text = other ∨ Collide text other := by
  have words := eq_of_flatMap_hexDigits_eq (String.ofList_injective same)
  by_cases equal : text = other
  · exact Or.inl equal
  · exact Or.inr ⟨equal, words⟩

end QueryCompiler.Digest
