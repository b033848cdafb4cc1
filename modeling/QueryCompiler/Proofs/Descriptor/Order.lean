import QueryCompiler.Descriptor.Order
import QueryCompiler.Proofs.Json.Record

/-!
# Ordering terms are read back as they were written

Handles, qualifiers, terms and whole orders are decoded from the values that
were written for them, whatever they hold.
-/

namespace QueryCompiler

open Json

/-! ## Relations -/

/-- A handle is decoded from the value that was written for it. -/
theorem RelationHandle.decode_toJson (handle : RelationHandle) (source : Source) :
    decode source (Draft.ofJson handle.toJson) = .ok handle := by
  have table : Fills shape.Sets ⟨some handle.model, none⟩
      (optionalMember "table" .string handle.table) ⟨some handle.model, handle.table⟩ :=
    Fills.optionalMember (fun table => RelationHandle.Partial.mk (some handle.model) table)
      fun _ _ => rfl
  have fills : Fills shape.Sets shape.empty
      (("model", .string handle.model) :: optionalMember "table" .string handle.table)
      ⟨some handle.model, handle.table⟩ := .step rfl table
  have keys := (keys_optionalMember_sublist "table" .string handle.table).cons_cons "model"
  have nodup : ["model", "table"].Nodup := by decide
  exact RecordShape.decode_of_fills source fills keys nodup rfl

/-- A qualifier is decoded from the value that was written for it. -/
theorem RelationQualifier.decode_toJson (qualifier : RelationQualifier) (source : Source) :
    decode source (Draft.ofJson qualifier.toJson) = .ok qualifier := by
  have handle : (shape source).Sets "handle" qualifier.handle.toJson (shape source).empty
      ⟨some qualifier.handle, none⟩ := by
    exact Outcome.bind_pure_of_ok (RelationHandle.decode_toJson qualifier.handle source) _
  have fills : Fills (shape source).Sets (shape source).empty
      [("handle", qualifier.handle.toJson), ("alias", .string qualifier.name)]
      ⟨some qualifier.handle, some qualifier.name⟩ := .step handle (.single rfl)
  have nodup : ["handle", "alias"].Nodup := by decide
  exact RecordShape.decode_of_fills source fills (List.Sublist.refl _) nodup rfl

/-! ## Terms -/

private theorem Direction.decode_name (direction : Direction) (source : Source) :
    decode source (.string direction.name) = .ok direction := by
  cases direction <;> rfl

namespace OrderTerm

/-- A term is decoded from the value that was written for it. -/
theorem decode_toJson (term : OrderTerm) (source : Source) :
    decode source (Draft.ofJson term.toJson) = .ok term := by
  have direction : (shape source).Sets "direction" (.string term.direction.name)
      ⟨some term.column, none, none⟩ ⟨some term.column, some term.direction, none⟩ := by
    exact Outcome.bind_pure_of_ok (Direction.decode_name term.direction source) _
  have relation : Fills (shape source).Sets ⟨some term.column, some term.direction, none⟩
      (optionalMember "relation" RelationQualifier.toJson term.relation)
      ⟨some term.column, some term.direction, term.relation⟩ := by
    refine Fills.optionalMember
      (fun relation => OrderTerm.Partial.mk (some term.column) (some term.direction) relation)
      fun qualifier _ => ?_
    have decoded := decodeOption_of_ok (RelationQualifier.decode_toJson qualifier source)
      Draft.noConfusion
    exact Outcome.bind_pure_of_ok decoded _
  have fills : Fills (shape source).Sets (shape source).empty
      (("column", .string term.column) :: ("direction", .string term.direction.name) ::
        optionalMember "relation" RelationQualifier.toJson term.relation)
      ⟨some term.column, some term.direction, term.relation⟩ := .step rfl (.step direction relation)
  have keys := ((keys_optionalMember_sublist "relation" RelationQualifier.toJson
    term.relation).cons_cons "direction").cons_cons "column"
  have nodup : ["column", "direction", "relation"].Nodup := by decide
  exact RecordShape.decode_of_fills source fills keys nodup rfl

/-- An order is decoded from the value that was written for it. -/
theorem decodeList_orderToJson (order : List OrderTerm) (source : Source) :
    decodeList (decode source) (Draft.ofJson (.array (order.map toJson))) = .ok order :=
  decodeList_ofJson fun term _ => decode_toJson term source

end OrderTerm

end QueryCompiler
