import Mathlib
import QueryCompiler.Proofs.Compile.Assemble
import QueryCompiler.Proofs.Descriptor.Written

/-!
# Descriptors that are handed on are read back

A descriptor comes from a reader, or it was assembled from raw input on a base that
is empty or comes from a reader.  None of these loses anything when it is written
and read again, and what is written for it is a value as it stands.
-/

namespace QueryCompiler

open Json

/-- A base that a caller can give: none at all, or one that was decoded. -/
inductive BaseDescriptor.Given : BaseDescriptor → Prop
  | absent : Given .empty
  | decoded {source : Source} {draft : Draft} {base : BaseDescriptor}
      (read : decode source draft = .ok base) : Given base

theorem BaseDescriptor.Given.restorable {base : BaseDescriptor} (given : base.Given) :
    base.Restorable := by
  cases given with
  | absent => exact restorable_empty
  | decoded read => exact decode_yields _ _ base read

/-- A descriptor that is handed on: one that was decoded, or one that was assembled
from raw input. -/
inductive Descriptor.Produced : Descriptor → Prop
  | decoded {source : Source} {draft : Draft} {descriptor : Descriptor}
      (read : decode source draft = .ok descriptor) : Produced descriptor
  | assembled {context : Context} {raw : Json} {base : BaseDescriptor} {single : Bool}
      {descriptor : Descriptor} {diagnostics : List Diagnostic}
      (keeps : context.translator.KeepsWellFormed) (wellFormed : raw.WellFormed)
      (given : base.Given)
      (result : assemble context (.ofJson raw) base single = .ok (descriptor, diagnostics)) :
      Produced descriptor

theorem Descriptor.Produced.restorable {descriptor : Descriptor}
    (produced : descriptor.Produced) : descriptor.Restorable := by
  cases produced with
  | decoded read => exact decode_yields _ _ descriptor read
  | assembled keeps wellFormed given result =>
      obtain ⟨assembly, rfl, _⟩ := assemble_eq_ok_iff.mp result
      exact assembly.restorable keeps (QuerySpec.wellFormed_ofJson wellFormed) given.restorable

/-- A descriptor that is handed on is written as a value without repeated keys, and
this value is decoded as the descriptor again, with its text and its fingerprint. -/
theorem Descriptor.decode_written_of_produced {descriptor : Descriptor}
    (produced : descriptor.Produced) (source : Source) :
    descriptor.toJson.WellFormed ∧
      ∃ again, decode source (Draft.ofJson descriptor.toJson) = .ok again ∧
        again = descriptor ∧ again.canonicalText = descriptor.canonicalText ∧
        again.fingerprint = descriptor.fingerprint := by
  have restorable := produced.restorable
  exact ⟨restorable.wellFormed_toJson, descriptor, decode_toJson restorable source, rfl, rfl, rfl⟩

/-- A descriptor for one row, with an expansion, a condition of its base and an option
that is passed through. -/
theorem decode_written_single_row :
    let context : Context := ⟨fun _ => .ok (some ⟨"User", none⟩), Filter.translate⟩
    let base : BaseDescriptor :=
      { BaseDescriptor.empty with
        condition := some (.compare "owner" .eq (.string "me"))
        options := [("trace", .bool true)] }
    let raw : Json := .object
      [("filter", .object [("status", .string "live")]), ("attributes", .array [.string "id"]),
        ("expands", .array [.object
          [("name", .string "author"), ("where", .object [("age", .null)])]])]
    let author : Expansion := ⟨"author", ⟨"User", none⟩, "author",
      some (.compare "age" .is .null), none, none, none, [], none⟩
    let descriptor : Descriptor :=
      ⟨.cleared, .cleared, .cleared, [.expand author []], some ["id"],
        .all [.compare "owner" .eq (.string "me"), .compare "status" .eq (.string "live"),
          .always], [("trace", .bool true)]⟩
    assemble context (.ofJson raw) base true = .ok (descriptor, []) ∧
      descriptor.toJson.WellFormed ∧
      ∃ again, Descriptor.decode .value (Draft.ofJson descriptor.toJson) = .ok again ∧
        again = descriptor ∧ again.canonicalText = descriptor.canonicalText ∧
        again.fingerprint = descriptor.fingerprint := by
  intro context base raw author descriptor
  have read : BaseDescriptor.decode .value (Draft.ofJson base.toJson) = .ok base := rfl
  have wellFormed : raw.WellFormed := wellFormed_distinct raw
  have result : assemble context (.ofJson raw) base true = .ok (descriptor, []) := by cbv
  have produced : descriptor.Produced :=
    .assembled Filter.keepsWellFormed_translate wellFormed (.decoded read) result
  exact ⟨result, Descriptor.decode_written_of_produced produced .value⟩

end QueryCompiler
