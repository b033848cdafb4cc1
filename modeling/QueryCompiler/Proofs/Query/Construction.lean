import QueryCompiler.Proofs.Query.Builder

/-!
# What every specification keeps

Raw input and builders are the two ways to a specification.  Each of them sees to it by itself
that the pages before the page can be counted, that no filter is null and that no token is
empty; raw input does the same with the options of associations at every depth.  A builder asks
for no more than that: whatever keeps it can be built.
-/

namespace QueryCompiler

open Json

/-- An entry is one of some entries, or stands within one of them at any depth. -/
inductive ExpandEntry.Within (entry : ExpandEntry) : List ExpandEntry → Prop
  | here {entries : List ExpandEntry} (member : entry ∈ entries) : Within entry entries
  | nested {entries nested : List ExpandEntry} {wanted : ExpandRequest}
      (member : .request wanted nested ∈ entries) (within : Within entry nested) :
      Within entry entries

/-- A name is not empty, and nothing in the options of a request counts as missing. -/
def ExpandEntry.Filled : ExpandEntry → Prop
  | .name association => association ≠ ""
  | .request wanted _ => wanted.Normal
  | .invalid _ => True

/-- What holds of a specification, however it was made. -/
structure QuerySpec.Sound (spec : QuerySpec) : Prop where
  page : 1 ≤ spec.page
  perPage : 1 ≤ spec.perPage
  filter : spec.filter ≠ .null
  additionalFilter : spec.additionalFilter ≠ .null
  orderBy : ∀ token ∈ spec.orderBy, token ≠ ""

/-! ## Pages -/

namespace QuerySpec

variable {spec : QuerySpec}

private theorem Sound.toNat_page_sub_one (sound : spec.Sound) :
    (spec.page - 1).toNat = spec.page.toNat - 1 :=
  UInt64.toNat_sub_of_le _ _ sound.page

private theorem Sound.toNat_page_sub_one_add_one (sound : spec.Sound) :
    (spec.page - 1).toNat + 1 = spec.page.toNat := by
  have first : 1 ≤ spec.page.toNat := UInt64.le_iff_toNat_le.mp sound.page
  rw [sound.toNat_page_sub_one, Nat.sub_add_cancel first]

/-! ## Raw input -/

private theorem Normal.sound (normal : spec.Normal) : spec.Sound :=
  ⟨normal.page, normal.perPage, normal.filter, normal.additionalFilter, normal.orderBy⟩

end QuerySpec

namespace ExpandEntry

private theorem Normal.filled {entry : ExpandEntry} (normal : entry.Normal) : entry.Filled := by
  cases normal with
  | name present => exact present
  | request options _ => exact options
  | invalid _ => exact trivial

/-- What stands within normal entries is normal. -/
theorem Within.normal {entry : ExpandEntry} {entries : List ExpandEntry}
    (within : entry.Within entries) (each : ∀ outer ∈ entries, outer.Normal) :
    entry.Normal := by
  induction within with
  | here member => exact each entry member
  | nested member _ inductionHypothesis =>
      apply inductionHypothesis
      -- The entry around is normal by what is known of its level, and so are those in it.
      cases each _ member with
      | request _ entries => exact entries

end ExpandEntry

/-! ## Builders -/

namespace QueryBuilder

private theorem one_le_getD_filter {chosen : Option UInt64} {default : UInt64}
    (above : 1 ≤ default) :
    1 ≤ (chosen.filter fun number => 1 ≤ number).getD default := by
  rw [← getD_filter_positive]
  exact one_le_positiveNumber? above

/-- A builder gives a sound specification whatever it was told. -/
theorem sound_build (builder : QueryBuilder) : builder.build.Sound where
  page := one_le_getD_filter (by decide)
  perPage := one_le_getD_filter (by decide)
  filter := filterOrEmpty_ne_null builder.filter
  additionalFilter := filterOrEmpty_ne_null builder.additionalFilter
  orderBy := by
    intro token member
    simpa using (List.mem_filter.mp member).2

/-- The steps that tell a builder all of a specification. -/
def stepsFor (spec : QuerySpec) : List Step :=
  [.filter spec.filter, .additionalFilter spec.additionalFilter, .attributes spec.attributes,
    .page spec.page, .perPage spec.perPage, .allPage spec.allPage, .orderBy spec.orderBy] ++
    spec.expands.map .expand

private theorem steps_expand (builder : QueryBuilder) (entries : List ExpandEntry) :
    builder.steps (entries.map .expand) =
      { builder with expands := builder.expands ++ entries } := by
  induction entries generalizing builder with
  | nil => simp [steps]
  | cons entry entries inductionHypothesis =>
      rw [List.map_cons, steps_cons, inductionHypothesis]
      simp [step]

private theorem steps_stepsFor (spec : QuerySpec) :
    empty.steps (stepsFor spec) =
      ⟨some spec.filter, some spec.additionalFilter, spec.attributes, some spec.page,
        some spec.perPage, spec.allPage, spec.orderBy, spec.expands⟩ := by
  rw [stepsFor, steps, List.foldl_append]
  exact (steps_expand _ _).trans (by simp [step, empty])

private theorem build_stepsFor {spec : QuerySpec} (sound : spec.Sound) :
    (empty.steps (stepsFor spec)).build = spec := by
  rw [steps_stepsFor]
  simp [build, nonNull?_of_ne_null sound.filter, nonNull?_of_ne_null sound.additionalFilter,
    filter_nonEmpty_eq_self sound.orderBy, Option.filter_some, sound.page, sound.perPage]

end QueryBuilder

/-! ## Both ways -/

/-- Specifications are sound, whether raw input asks for them or any steps of a builder do.
Those of raw input have no empty attribute either, and every entry within their associations
is filled.  What can be built is all that is sound.  One page can be taken off the page of a
sound specification, so that its offset is the product of machine words, up to the largest. -/
theorem sound_of_constructed :
    (∀ raw : Json, (QuerySpec.ofJson raw).Sound ∧
        (∀ name ∈ (QuerySpec.ofJson raw).attributes, name ≠ "") ∧
        ∀ entry : ExpandEntry, entry.Within (QuerySpec.ofJson raw).expands → entry.Filled) ∧
      (∀ all : List QueryBuilder.Step, ((QueryBuilder.empty.steps all).build).Sound) ∧
      ∀ spec : QuerySpec, spec.Sound →
        (∃ all, (QueryBuilder.empty.steps all).build = spec) ∧
          (spec.page - 1).toNat + 1 = spec.page.toNat ∧
          spec.offset.toNat =
            min ((spec.page - 1).toNat * spec.perPage.toNat) (UInt64.size - 1) := by
  refine ⟨?_, fun all => QueryBuilder.sound_build _, ?_⟩
  · intro raw
    have normal := QuerySpec.normal_ofJson raw
    exact ⟨normal.sound, normal.attributes,
      fun entry within => (within.normal normal.expands).filled⟩
  · intro spec sound
    have offset := spec.toNat_offset
    rw [← sound.toNat_page_sub_one] at offset
    exact ⟨⟨_, QueryBuilder.build_stepsFor sound⟩, sound.toNat_page_sub_one_add_one, offset⟩

/-- Raw input with nothing usable in it but for its names, and an entry within two others. -/
theorem sound_of_constructed_nested :
    let inner : Json := .object
      [("name", .string ""), ("modelName", .string "Tag"), ("where", .null),
        ("order", .array [.string "", .string "-age", .null]), ("attributes", .null)]
    let outer : Json := .object [("name", .string "pictures"), ("expands", .array [inner])]
    let raw : Json := .object
      [("filter", .null), ("attributes", .array [.string "", .string "id"]), ("page", ofUInt64 0),
        ("orderBy", .array [.string "", .string "age"]),
        ("expands", .array [.object [("expands", .array [.string "", outer])]])]
    let all : List QueryBuilder.Step :=
      [.page 7, .orderBy ["", "age"], .page 0, .filter .null, .perPage 0, .expand (.name "")]
    (QuerySpec.ofJson raw).Sound ∧ (QuerySpec.ofJson raw).attributes = ["id"] ∧
      (ExpandEntry.ofJson inner).Within (QuerySpec.ofJson raw).expands ∧
      (ExpandEntry.ofJson inner).Filled ∧ (QueryBuilder.empty.steps all).build.Sound ∧
      ((QueryBuilder.empty.steps all).build.page - 1).toNat + 1 = 1 := by
  intro inner outer raw all
  obtain ⟨ofRaw, ofSteps, ofSound⟩ := sound_of_constructed
  obtain ⟨sound, _, each⟩ := ofRaw raw
  have within : (ExpandEntry.ofJson inner).Within (QuerySpec.ofJson raw).expands := by
    apply ExpandEntry.Within.nested List.mem_cons_self
    apply ExpandEntry.Within.nested (List.mem_cons_of_mem _ List.mem_cons_self)
    exact .here List.mem_cons_self
  exact ⟨sound, by rfl, within, each _ within, ofSteps all, (ofSound _ (ofSteps all)).2.1⟩

end QueryCompiler
