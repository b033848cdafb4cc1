import QueryCompiler.Predicate.Wire
import QueryCompiler.Proofs.Json.Record

/-!
# Predicates are read back as they were written

`decode_toJson` reads a predicate from the value that was written for it, and
`decode_yields` says that every predicate that is read holds well-formed values
only.  The members of a form are treated alike wherever they come from:
`setMembers` is applied to the members beside the tag, which `ofContent` passes
over in an operand and `decode` has taken away.
-/

namespace QueryCompiler.Predicate

open Json

/-- Every value that the predicate compares with is well-formed. -/
inductive WellFormed : Predicate → Prop
  | always : WellFormed .always
  | all {operands : List Predicate} (each : ∀ operand ∈ operands, WellFormed operand) :
      WellFormed (.all operands)
  | any {operands : List Predicate} (each : ∀ operand ∈ operands, WellFormed operand) :
      WellFormed (.any operands)
  | negation {operand : Predicate} (inner : WellFormed operand) : WellFormed (.negation operand)
  | compare (field : String) (comparison : Comparison) {value : Json}
      (compared : value.WellFormed) : WellFormed (.compare field comparison value)

/-! ## The tag and the other members -/

/-- The form of a predicate. -/
def form : Predicate → Form
  | .always => .always
  | .all _ => .all
  | .any _ => .any
  | .negation _ => .negation
  | .compare _ _ _ => .compare

/-- The tag that is written for a form. -/
def Form.tag : Form → String
  | .always => "true"
  | .all => "and"
  | .any => "or"
  | .negation => "not"
  | .compare => "compare"

/-- The members that are written beside the tag. -/
def fieldMembers : Predicate → Json.Members
  | .always => []
  | .all operands => [("operands", .array (toJsonItems operands))]
  | .any operands => [("operands", .array (toJsonItems operands))]
  | .negation operand => [("operand", operand.toJson)]
  | .compare field comparison value =>
      [("field", .string field), ("op", .string comparison.name), ("value", value)]

theorem toJson_eq (predicate : Predicate) :
    predicate.toJson =
      .object (("type", .string predicate.form.tag) :: predicate.fieldMembers) := by
  cases predicate <;> rfl

theorem Form.decode_tag (source : Source) (form : Form) :
    Form.decode source (.string form.tag) = .ok form := by
  cases form <;> rfl

theorem type_not_mem_fieldMembers (predicate : Predicate) :
    "type" ∉ predicate.fieldMembers.map Prod.fst := by
  cases predicate <;> simp [fieldMembers]

/-- No form has a field under the key of the tag. -/
theorem setMembers_type (form : Form) (fields : Fields) (value : Json)
    (members : Json.Members) :
    setMembers form fields (("type", value) :: members) = setMembers form fields members := by
  cases form <;> simp [setMembers]

private theorem formOfMembers_of_not_mem {members : Json.Members}
    (untagged : "type" ∉ members.map Prod.fst) (seen : Option Form) :
    formOfMembers seen members = .ok seen := by
  induction members with
  | nil => rfl
  | cons member members inductionHypothesis =>
      simp only [List.map_cons, List.mem_cons, not_or] at untagged
      rw [formOfMembers, if_neg (Ne.symm untagged.1), inductionHypothesis untagged.2]

private theorem holdMembers_of_not_mem {members : Json.Members}
    (untagged : "type" ∉ members.map Prod.fst) (source : Source) (seen : Option Form) :
    holdMembers source seen (Draft.ofMembers members) = .ok (seen, members) := by
  induction members with
  | nil => rfl
  | cons member members inductionHypothesis =>
      simp only [List.map_cons, List.mem_cons, not_or] at untagged
      rw [Draft.ofMembers, holdMembers, Draft.readKey_ok, Outcome.ok_bind,
        if_neg (Ne.symm untagged.1), Draft.read_ofJson, Outcome.ok_bind,
        inductionHypothesis untagged.2]
      rfl

/-! ## Reading what was written -/

private theorem ofContent_toJson_of_fields {predicate : Predicate}
    (fields : setMembers predicate.form .empty predicate.fieldMembers = .ok predicate) :
    ofContent predicate.toJson = .ok predicate := by
  have tagged : formOfMembers none
      (("type", .string predicate.form.tag) :: predicate.fieldMembers) =
        .ok (some predicate.form) := by
    rw [formOfMembers, if_pos rfl, Draft.ofJson, Form.decode_tag]
    exact formOfMembers_of_not_mem predicate.type_not_mem_fieldMembers _
  rw [toJson_eq, ofContent, tagged, Outcome.ok_bind]
  exact (setMembers_type _ _ _ _).trans fields

private theorem itemsOfContent_toJsonItems {operands : List Predicate}
    (each : ∀ operand ∈ operands, ofContent operand.toJson = .ok operand) :
    itemsOfContent (toJsonItems operands) = .ok operands := by
  induction operands with
  | nil => rfl
  | cons operand operands inductionHypothesis =>
      obtain ⟨first, rest⟩ := List.forall_mem_cons.mp each
      rw [toJsonItems, itemsOfContent, first, inductionHypothesis rest]
      rfl

private theorem decodeComparison_name (comparison : Comparison) :
    decodeComparison (.string comparison.name) = .ok comparison := by
  cases comparison <;> rfl

/-- The members beside the tag give the predicate.  The induction carries that
each operand is read back from its own value. -/
theorem WellFormed.setMembers_fieldMembers {predicate : Predicate}
    (wellFormed : predicate.WellFormed) :
    setMembers predicate.form .empty predicate.fieldMembers = .ok predicate := by
  induction wellFormed with
  | always => rfl
  | @all operands each inductionHypothesis =>
      have read := itemsOfContent_toJsonItems fun operand member =>
        ofContent_toJson_of_fields (inductionHypothesis operand member)
      simp only [form, fieldMembers, setMembers, if_true, listOfContent, read]
      rfl
  | @any operands each inductionHypothesis =>
      have read := itemsOfContent_toJsonItems fun operand member =>
        ofContent_toJson_of_fields (inductionHypothesis operand member)
      simp only [form, fieldMembers, setMembers, if_true, listOfContent, read]
      rfl
  | @negation operand inner inductionHypothesis =>
      have read := ofContent_toJson_of_fields inductionHypothesis
      simp only [form, fieldMembers, setMembers, if_true, read]
      rfl
  | @compare field comparison value compared =>
      simp only [form, fieldMembers, setMembers, if_true, decodeComparison_name,
        compared.distinct_eq, reduceIte, String.reduceEq]
      rfl

/-- A predicate is decoded from the value that was written for it. -/
theorem decode_toJson {predicate : Predicate} (wellFormed : predicate.WellFormed)
    (source : Source) : decode source (Draft.ofJson predicate.toJson) = .ok predicate := by
  have held : holdMembers source none
      (Draft.ofMembers (("type", .string predicate.form.tag) :: predicate.fieldMembers)) =
        .ok (some predicate.form, predicate.fieldMembers) := by
    rw [Draft.ofMembers, holdMembers, Draft.readKey_ok, Outcome.ok_bind, if_pos rfl, Draft.ofJson,
      Form.decode_tag]
    exact holdMembers_of_not_mem predicate.type_not_mem_fieldMembers source _
  rw [toJson_eq, Draft.ofJson, decode, held, Outcome.ok_bind]
  exact wellFormed.setMembers_fieldMembers

/-- What is written for a predicate is an object. -/
theorem ofJson_toJson_ne_null (predicate : Predicate) :
    Draft.ofJson predicate.toJson ≠ .null := by
  rw [toJson_eq, Draft.ofJson]
  exact Draft.noConfusion

/-! ## What is read -/

/-- The fields that were met hold well-formed values only. -/
structure Fields.WellFormed (fields : Fields) : Prop where
  operands : ∀ operands ∈ fields.operands, ∀ operand ∈ operands, operand.WellFormed
  operand : ∀ operand ∈ fields.operand, operand.WellFormed
  value : ∀ value ∈ fields.value, value.WellFormed

private theorem Fields.wellFormed_empty : Fields.empty.WellFormed where
  operands := fun _ member => nomatch member
  operand := fun _ member => nomatch member
  value := fun _ member => nomatch member

namespace Fields.WellFormed

variable {fields : Fields}

private theorem setOperands (wellFormed : fields.WellFormed) {operands : List Predicate}
    (each : ∀ operand ∈ operands, operand.WellFormed) :
    { fields with operands := some operands }.WellFormed where
  operands := fun _ member => Option.some.inj member ▸ each
  operand := wellFormed.operand
  value := wellFormed.value

private theorem setOperand (wellFormed : fields.WellFormed) {operand : Predicate}
    (inner : operand.WellFormed) : { fields with operand := some operand }.WellFormed where
  operands := wellFormed.operands
  operand := fun _ member => Option.some.inj member ▸ inner
  value := wellFormed.value

private theorem setField (wellFormed : fields.WellFormed) (field : Option String) :
    { fields with field := field }.WellFormed where
  operands := wellFormed.operands
  operand := wellFormed.operand
  value := wellFormed.value

private theorem setComparison (wellFormed : fields.WellFormed) (comparison : Option Comparison) :
    { fields with comparison := comparison }.WellFormed where
  operands := wellFormed.operands
  operand := wellFormed.operand
  value := wellFormed.value

private theorem setValue (wellFormed : fields.WellFormed) {value : Json}
    (compared : value.WellFormed) :
    { fields with value := some value }.WellFormed where
  operands := wellFormed.operands
  operand := wellFormed.operand
  value := fun _ member => Option.some.inj member ▸ compared

end Fields.WellFormed

theorem eq_some_of_required {α : Type} {name : String} {field : Option α} {value : α}
    (found : required name field = .ok value) : field = some value := by
  cases field with
  | none => cases found
  | some other =>
      cases found
      rfl

private theorem Fields.WellFormed.finish {fields : Fields} (wellFormed : fields.WellFormed)
    {form : Form}
    {predicate : Predicate} (finished : fields.finish form = .ok predicate) :
    predicate.WellFormed := by
  cases form with
  | always =>
      cases finished
      exact .always
  | all =>
      obtain ⟨operands, found, rfl⟩ := Outcome.map_eq_ok.mp finished
      exact .all (wellFormed.operands operands (eq_some_of_required found))
  | any =>
      obtain ⟨operands, found, rfl⟩ := Outcome.map_eq_ok.mp finished
      exact .any (wellFormed.operands operands (eq_some_of_required found))
  | negation =>
      obtain ⟨operand, found, rfl⟩ := Outcome.map_eq_ok.mp finished
      exact .negation (wellFormed.operand operand (eq_some_of_required found))
  | compare =>
      obtain ⟨field, _, finished⟩ := Outcome.bind_eq_ok.mp finished
      obtain ⟨comparison, _, finished⟩ := Outcome.bind_eq_ok.mp finished
      obtain ⟨value, found, finished⟩ := Outcome.bind_eq_ok.mp finished
      cases finished
      exact .compare field comparison (wellFormed.value value (eq_some_of_required found))

private theorem setOnce_eq_ok {α : Type} {name : String} {before after : Option α}
    {value : Except ReadError α} (set : setOnce name before value = .ok after) :
    ∃ found, value = .ok found ∧ after = some found := by
  unfold setOnce at set
  split at set
  · cases set
  · obtain ⟨found, read, same⟩ := Outcome.map_eq_ok.mp set
    exact ⟨found, read, same.symm⟩

private theorem wellFormed_of_finishItems {form : Form} {length : Nat} {fields : Fields}
    (wellFormed : fields.WellFormed) {predicate : Predicate}
    (finished : finishItems form length fields = .ok predicate) : predicate.WellFormed := by
  unfold finishItems at finished
  obtain ⟨found, finish, last⟩ := Outcome.bind_eq_ok.mp finished
  split at last
  · cases last
    exact wellFormed.finish (Outcome.mapError_eq_ok.mp finish)
  · cases last

mutual

/-- A predicate that is read from a buffered value holds well-formed values only. -/
theorem wellFormed_of_ofContent :
    ∀ (value : Json) {predicate : Predicate},
      ofContent value = .ok predicate → predicate.WellFormed
  | .object members, _, read => by
      rw [ofContent] at read
      obtain ⟨form, _, read⟩ := Outcome.bind_eq_ok.mp read
      cases form with
      | none => cases read
      | some form => exact wellFormed_of_setMembers members form Fields.wellFormed_empty read
  | .array [], _, read => by
      rw [ofContent] at read
      cases read
  | .array (first :: items), _, read => by
      rw [ofContent] at read
      obtain ⟨form, _, read⟩ := Outcome.bind_eq_ok.mp read
      exact wellFormed_of_setItems items form read
  | .null, _, read => absurd read wrongType_ne_ok
  | .bool _, _, read => absurd read wrongType_ne_ok
  | .number _, _, read => absurd read wrongType_ne_ok
  | .string _, _, read => absurd read wrongType_ne_ok

private theorem wellFormed_of_listOfContent :
    ∀ (value : Json) {operands : List Predicate},
      listOfContent value = .ok operands → ∀ operand ∈ operands, operand.WellFormed
  | .array items, _, read => by
      rw [listOfContent] at read
      exact wellFormed_of_itemsOfContent items read
  | .null, _, read => absurd read wrongType_ne_ok
  | .bool _, _, read => absurd read wrongType_ne_ok
  | .number _, _, read => absurd read wrongType_ne_ok
  | .string _, _, read => absurd read wrongType_ne_ok
  | .object _, _, read => absurd read wrongType_ne_ok

private theorem wellFormed_of_itemsOfContent :
    ∀ (items : List Json) {operands : List Predicate},
      itemsOfContent items = .ok operands → ∀ operand ∈ operands, operand.WellFormed
  | [], _, read => by
      cases read
      exact List.forall_mem_nil _
  | item :: items, _, read => by
      rw [itemsOfContent] at read
      obtain ⟨first, rest, firstRead, restRead, rfl⟩ := Outcome.cons_eq_ok.mp read
      have firstWellFormed := wellFormed_of_ofContent item firstRead
      have restWellFormed := wellFormed_of_itemsOfContent items restRead
      exact List.forall_mem_cons.mpr ⟨firstWellFormed, restWellFormed⟩

private theorem wellFormed_of_setMembers :
    ∀ (members : List (String × Json)) (form : Form) {fields : Fields} {predicate : Predicate},
      fields.WellFormed → setMembers form fields members = .ok predicate →
        predicate.WellFormed
  | [], form, _, _, wellFormed, read => by
      rw [setMembers] at read
      exact wellFormed.finish (Outcome.mapError_eq_ok.mp read)
  | (key, value) :: members, .always, _, _, wellFormed, read => by
      rw [setMembers] at read
      exact wellFormed_of_setMembers members .always wellFormed read
  | (key, value) :: members, .all, _, _, wellFormed, read => by
      rw [setMembers] at read
      split at read
      · obtain ⟨_, set, read⟩ := Outcome.bind_eq_ok.mp read
        obtain ⟨operands, operandsRead, rfl⟩ := setOnce_eq_ok set
        have each := wellFormed_of_listOfContent value operandsRead
        exact wellFormed_of_setMembers members .all (wellFormed.setOperands each) read
      · exact wellFormed_of_setMembers members .all wellFormed read
  | (key, value) :: members, .any, _, _, wellFormed, read => by
      rw [setMembers] at read
      split at read
      · obtain ⟨_, set, read⟩ := Outcome.bind_eq_ok.mp read
        obtain ⟨operands, operandsRead, rfl⟩ := setOnce_eq_ok set
        have each := wellFormed_of_listOfContent value operandsRead
        exact wellFormed_of_setMembers members .any (wellFormed.setOperands each) read
      · exact wellFormed_of_setMembers members .any wellFormed read
  | (key, value) :: members, .negation, _, _, wellFormed, read => by
      rw [setMembers] at read
      split at read
      · obtain ⟨_, set, read⟩ := Outcome.bind_eq_ok.mp read
        obtain ⟨operand, operandRead, rfl⟩ := setOnce_eq_ok set
        have inner := wellFormed_of_ofContent value operandRead
        exact wellFormed_of_setMembers members .negation (wellFormed.setOperand inner) read
      · exact wellFormed_of_setMembers members .negation wellFormed read
  | (key, value) :: members, .compare, _, _, wellFormed, read => by
      rw [setMembers] at read
      split at read
      · obtain ⟨field, _, read⟩ := Outcome.bind_eq_ok.mp read
        exact wellFormed_of_setMembers members .compare (wellFormed.setField field) read
      · split at read
        · obtain ⟨comparison, _, read⟩ := Outcome.bind_eq_ok.mp read
          exact wellFormed_of_setMembers members .compare
            (wellFormed.setComparison comparison) read
        · split at read
          · obtain ⟨_, set, read⟩ := Outcome.bind_eq_ok.mp read
            obtain ⟨_, valueRead, rfl⟩ := setOnce_eq_ok set
            cases valueRead
            exact wellFormed_of_setMembers members .compare
              (wellFormed.setValue (wellFormed_distinct value)) read
          · exact wellFormed_of_setMembers members .compare wellFormed read

private theorem wellFormed_of_setItems :
    ∀ (items : List Json) (form : Form) {predicate : Predicate},
      setItems form items = .ok predicate → predicate.WellFormed
  | [], form, _, read => by
      have shape : setItems form [] = finishItems form 0 .empty := by
        cases form <;> simp [setItems]
      rw [shape] at read
      exact wellFormed_of_finishItems Fields.wellFormed_empty read
  | item :: items, .always, _, read => by
      have shape : setItems .always (item :: items) =
          finishItems .always (item :: items).length .empty := by
        simp [setItems]
      rw [shape] at read
      exact wellFormed_of_finishItems Fields.wellFormed_empty read
  | operands :: items, .all, _, read => by
      rw [setItems] at read
      obtain ⟨_, operandsRead, read⟩ := Outcome.bind_eq_ok.mp read
      have each := wellFormed_of_listOfContent operands operandsRead
      exact wellFormed_of_finishItems (Fields.wellFormed_empty.setOperands each) read
  | operands :: items, .any, _, read => by
      rw [setItems] at read
      obtain ⟨_, operandsRead, read⟩ := Outcome.bind_eq_ok.mp read
      have each := wellFormed_of_listOfContent operands operandsRead
      exact wellFormed_of_finishItems (Fields.wellFormed_empty.setOperands each) read
  | operand :: items, .negation, _, read => by
      rw [setItems] at read
      obtain ⟨_, operandRead, read⟩ := Outcome.bind_eq_ok.mp read
      have inner := wellFormed_of_ofContent operand operandRead
      exact wellFormed_of_finishItems (Fields.wellFormed_empty.setOperand inner) read
  | [field], .compare, _, read => by
      rw [setItems] at read
      obtain ⟨field, _, read⟩ := Outcome.bind_eq_ok.mp read
      exact wellFormed_of_finishItems (Fields.wellFormed_empty.setField (some field)) read
  | [field, comparison], .compare, _, read => by
      rw [setItems] at read
      obtain ⟨field, _, read⟩ := Outcome.bind_eq_ok.mp read
      obtain ⟨comparison, _, read⟩ := Outcome.bind_eq_ok.mp read
      have named := Fields.wellFormed_empty.setField (some field)
      exact wellFormed_of_finishItems (named.setComparison (some comparison)) read
  | field :: comparison :: value :: items, .compare, _, read => by
      rw [setItems] at read
      obtain ⟨field, _, read⟩ := Outcome.bind_eq_ok.mp read
      obtain ⟨comparison, _, read⟩ := Outcome.bind_eq_ok.mp read
      have named := Fields.wellFormed_empty.setField (some field)
      have compared := named.setComparison (some comparison)
      exact wellFormed_of_finishItems (compared.setValue (wellFormed_distinct value)) read

end

/-- Every predicate that is decoded holds well-formed values only. -/
theorem decode_yields (source : Source) : Yields (decode source) WellFormed := by
  intro draft predicate decoded
  unfold decode at decoded
  split at decoded
  · obtain ⟨⟨form, held⟩, _, decoded⟩ := Outcome.bind_eq_ok.mp decoded
    obtain ⟨_, _, decoded⟩ := Outcome.bind_eq_ok.mp decoded
    cases form with
    | none => cases decoded
    | some form => exact wellFormed_of_setMembers held form Fields.wellFormed_empty decoded
  · obtain ⟨_, _, failed⟩ := Outcome.bind_eq_ok.mp decoded
    cases failed
  · obtain ⟨form, _, decoded⟩ := Outcome.bind_eq_ok.mp decoded
    obtain ⟨items, _, decoded⟩ := Outcome.bind_eq_ok.mp decoded
    obtain ⟨_, _, decoded⟩ := Outcome.bind_eq_ok.mp decoded
    exact wellFormed_of_setItems items form decoded
  · exact absurd decoded wrongType_ne_ok

end QueryCompiler.Predicate
