import QueryCompiler.Proofs.Json.WellFormed
import QueryCompiler.Query.Normalize

/-!
# Specifications from well-formed input

What a specification takes over from raw input is well-formed when the input is,
and attributes of an association are never null.
-/

namespace QueryCompiler

open Json

/-- The options of a request hold well-formed values, and attributes other than
null. -/
structure ExpandRequest.WellFormed (request : ExpandRequest) : Prop where
  condition : ∀ expression ∈ request.condition, expression.WellFormed
  attributes : ∀ value ∈ request.attributes, value.WellFormed ∧ value ≠ .null

/-- Every request within an entry is well-formed. -/
inductive ExpandEntry.WellFormed : ExpandEntry → Prop
  | name (association : String) : WellFormed (.name association)
  | request {wanted : ExpandRequest} {nested : List ExpandEntry} (options : wanted.WellFormed)
      (entries : ∀ entry ∈ nested, WellFormed entry) : WellFormed (.request wanted nested)
  | invalid (raw : Json) : WellFormed (.invalid raw)

/-- The filters and entries of a specification are well-formed. -/
structure QuerySpec.WellFormed (spec : QuerySpec) : Prop where
  filter : spec.filter.WellFormed
  additionalFilter : spec.additionalFilter.WellFormed
  expands : ∀ entry ∈ spec.expands, entry.WellFormed

/-! ## Fields -/

theorem ne_null_of_nonNull? {raw value : Json} (kept : raw.nonNull? = some value) :
    value = raw ∧ value ≠ .null := by
  cases raw with
  | null => cases kept
  | _ =>
      cases kept
      exact ⟨rfl, Json.noConfusion⟩

private theorem wellFormed_of_nonNull? {raw : Option Json}
    (wellFormed : ∀ value ∈ raw, value.WellFormed) :
    ∀ value ∈ raw.bind nonNull?, value.WellFormed ∧ value ≠ .null := by
  intro value member
  obtain ⟨found, rawFound, kept⟩ := Option.bind_eq_some_iff.mp member
  obtain ⟨rfl, present⟩ := ne_null_of_nonNull? kept
  exact ⟨wellFormed value rawFound, present⟩

private theorem wellFormed_filterOrEmpty {raw : Option Json}
    (wellFormed : ∀ value ∈ raw, value.WellFormed) : (filterOrEmpty raw).WellFormed := by
  have kept := wellFormed_of_nonNull? wellFormed
  unfold filterOrEmpty
  cases found : raw.bind nonNull? with
  | none => exact .object List.nodup_nil (List.forall_mem_nil _)
  | some value => exact (kept value found).1

private theorem wellFormed_lookup {members : Json.Members}
    (wellFormed : (Json.object members).WellFormed) (key : String) :
    ∀ value ∈ members.lookup key, value.WellFormed :=
  fun _ found => wellFormed.of_lookup found

/-! ## Associations -/

private theorem ExpandRequest.wellFormed_ofJson {members : Json.Members}
    (wellFormed : (Json.object members).WellFormed) :
    (ExpandRequest.ofJson (.object members)).WellFormed where
  condition := fun expression member =>
    (wellFormed_of_nonNull? (wellFormed_lookup wellFormed "where") expression member).1
  attributes := wellFormed_of_nonNull? (wellFormed_lookup wellFormed "attributes")

namespace ExpandEntry

mutual

/-- An entry that is asked for by well-formed input is well-formed at every depth. -/
theorem wellFormed_ofJson : ∀ {raw : Json}, raw.WellFormed → (ofJson raw).WellFormed
  | .string association, _ => by
      rw [ofJson]
      split
      · exact .invalid _
      · exact .name association
  | .object members, wellFormed =>
      .request (ExpandRequest.wellFormed_ofJson wellFormed)
        (wellFormed_ofMembers wellFormed.member)
  | .null, _ => .invalid _
  | .bool _, _ => .invalid _
  | .number _, _ => .invalid _
  | .array _, _ => .invalid _

private theorem wellFormed_ofMembers :
    ∀ {members : List (String × Json)}, (∀ member ∈ members, member.2.WellFormed) →
      ∀ entry ∈ ofMembers members, entry.WellFormed
  | [], _ => List.forall_mem_nil _
  | (key, value) :: members, wellFormed => by
      obtain ⟨first, rest⟩ := List.forall_mem_cons.mp wellFormed
      rw [ofMembers]
      split
      · exact wellFormed_ofList first
      · exact wellFormed_ofMembers rest

private theorem wellFormed_ofList :
    ∀ {raw : Json}, raw.WellFormed → ∀ entry ∈ ofList raw, entry.WellFormed
  | .array _, wellFormed => wellFormed_ofItems wellFormed.item
  | .null, _ => List.forall_mem_nil _
  | .bool _, _ => List.forall_mem_nil _
  | .number _, _ => List.forall_mem_nil _
  | .string _, _ => List.forall_mem_nil _
  | .object _, _ => List.forall_mem_nil _

private theorem wellFormed_ofItems :
    ∀ {items : List Json}, (∀ item ∈ items, item.WellFormed) →
      ∀ entry ∈ ofItems items, entry.WellFormed
  | [], _ => List.forall_mem_nil _
  | _ :: _, wellFormed => by
      obtain ⟨first, rest⟩ := List.forall_mem_cons.mp wellFormed
      exact List.forall_mem_cons.mpr ⟨wellFormed_ofJson first, wellFormed_ofItems rest⟩

end

end ExpandEntry

/-! ## Specifications -/

/-- The specification that well-formed input asks for is well-formed. -/
theorem QuerySpec.wellFormed_ofJson {raw : Json} (wellFormed : raw.WellFormed) :
    (QuerySpec.ofJson raw).WellFormed := by
  have default : QuerySpec.default.WellFormed :=
    have emptyFilter : QuerySpec.emptyFilter.WellFormed :=
      .object List.nodup_nil (List.forall_mem_nil _)
    ⟨emptyFilter, emptyFilter, List.forall_mem_nil _⟩
  cases raw with
  | object members =>
      have expands : ∀ entry ∈ ((members.lookup "expands").map ExpandEntry.ofList).getD [],
          entry.WellFormed := by
        cases found : members.lookup "expands" with
        | none => exact List.forall_mem_nil _
        | some value => exact ExpandEntry.wellFormed_ofList (wellFormed.of_lookup found)
      exact ⟨wellFormed_filterOrEmpty (wellFormed_lookup wellFormed "filter"),
        wellFormed_filterOrEmpty (wellFormed_lookup wellFormed "additionalFilter"), expands⟩
  | _ => exact default

end QueryCompiler
