import Mathlib.Logic.ExistsUnique
import QueryCompiler.Proofs.Compile.Assemble
import QueryCompiler.Proofs.Query.Normal

/-!
# Pages

The pages of one length tile the rows of a result (`pages_tile_rows`): each row has one page,
up to the row whose number is the largest natural of 64 bits.  Beyond it the offsets saturate,
and from there on the pages no longer differ.
-/

namespace QueryCompiler

open Json

variable {context : Context} {predicate : Predicate} {descriptor : Descriptor}
  {page perPage : UInt64}

/-- The raw query for one page of a given length. -/
def pageQuery (page perPage : UInt64) : Json :=
  .object [("page", ofUInt64 page), ("perPage", ofUInt64 perPage)]

/-- A descriptor selects a row, counted from zero. -/
def Descriptor.Covers (descriptor : Descriptor) (row : Nat) : Prop :=
  ∃ offset limit, descriptor.offset = .set offset ∧ descriptor.limit = .set limit ∧
    offset.toNat ≤ row ∧ row < offset.toNat + limit.toNat

/-! ## The query for a page -/

private theorem ofJson_pageQuery (first : 1 ≤ page) (positive : 1 ≤ perPage) :
    QuerySpec.ofJson (pageQuery page perPage) =
      { QuerySpec.default with page := page, perPage := perPage } := by
  have pageRead : ([("page", ofUInt64 page), ("perPage", ofUInt64 perPage)].lookup "page").bind
      positiveNumber? = some page := QuerySpec.positiveNumber?_ofUInt64 first
  have perPageRead : ([("page", ofUInt64 page), ("perPage", ofUInt64 perPage)].lookup
      "perPage").bind positiveNumber? = some perPage :=
    QuerySpec.positiveNumber?_ofUInt64 positive
  rw [pageQuery, QuerySpec.ofJson, pageRead, perPageRead]
  rfl

private theorem Assembly.slots_of_paged {spec : QuerySpec}
    (assembly : Assembly context spec .empty false) (paged : spec.allPage = false) :
    assembly.descriptor.offset = .set spec.offset ∧
      assembly.descriptor.limit = .set spec.perPage := by
  rw [descriptor, assembledOffset, assembledLimit, paged]
  exact ⟨rfl, rfl⟩

/-! ## Compiled pages -/

private theorem exists_compile_pageQuery
    (accepts : context.translator QuerySpec.emptyFilter = .ok predicate)
    (first : 1 ≤ page) (positive : 1 ≤ perPage) :
    ∃ descriptor, compile context (.ofJson (pageQuery page perPage)) = .ok descriptor := by
  rw [ofJson_pageQuery first positive]
  exact ⟨_, compile_eq_ok_iff.mpr
    ⟨⟨.set [], [], [], [], predicate, predicate, rfl, rfl, accepts, accepts⟩, rfl⟩⟩

private theorem slots_of_compile_pageQuery (first : 1 ≤ page) (positive : 1 ≤ perPage)
    (compiled : compile context (.ofJson (pageQuery page perPage)) = .ok descriptor) :
    ∃ offset : UInt64, descriptor.offset = .set offset ∧
      offset.toNat = min ((page.toNat - 1) * perPage.toNat) (UInt64.size - 1) ∧
      descriptor.limit = .set perPage := by
  rw [ofJson_pageQuery first positive] at compiled
  obtain ⟨assembly, rfl⟩ := compile_eq_ok_iff.mp compiled
  obtain ⟨offset, limit⟩ := assembly.slots_of_paged rfl
  exact ⟨_, offset, QuerySpec.toNat_offset _, limit⟩

/-! ## Rows -/

/-- Below the bound, the rows of a stretch are those with its number as their quotient. -/
theorem within_stretch_iff {before length bound row : Nat} (positive : 0 < length)
    (below : row < bound) :
    min (before * length) bound ≤ row ∧ row < min (before * length) bound + length ↔
      row / length = before := by
  constructor
  · rintro ⟨starts, ends⟩
    -- A stretch from the bound on has no row below it.
    have unbounded : min (before * length) bound = before * length := by omega
    rw [unbounded] at starts ends
    rw [← Nat.succ_mul] at ends
    exact Nat.div_eq_of_lt_le starts ends
  · rintro rfl
    have starts := Nat.div_mul_le_self row length
    have ends := Nat.lt_div_mul_add (a := row) positive
    omega

private theorem covers_iff_of_compile (first : 1 ≤ page) (positive : 1 ≤ perPage)
    (compiled : compile context (.ofJson (pageQuery page perPage)) = .ok descriptor)
    {row : Nat} (below : row < UInt64.size - 1) :
    descriptor.Covers row ↔ row / perPage.toNat = page.toNat - 1 := by
  obtain ⟨offset, offsetSet, value, limitSet⟩ :=
    slots_of_compile_pageQuery first positive compiled
  have length : 0 < perPage.toNat := UInt64.le_iff_toNat_le.mp positive
  rw [← within_stretch_iff length below, ← value]
  constructor
  · rintro ⟨other, limit, otherSet, otherLimitSet, covered⟩
    rw [offsetSet] at otherSet
    rw [limitSet] at otherLimitSet
    cases otherSet
    cases otherLimitSet
    exact covered
  · exact fun covered => ⟨offset, perPage, offsetSet, limitSet, covered⟩

private theorem existsUnique_page
    (accepts : context.translator QuerySpec.emptyFilter = .ok predicate)
    (positive : 1 ≤ perPage) {row : Nat} (below : row < UInt64.size - 1) :
    ∃! page : UInt64, 1 ≤ page ∧ ∃ descriptor,
      compile context (.ofJson (pageQuery page perPage)) = .ok descriptor ∧
        descriptor.Covers row := by
  -- The page is the quotient of the row by the length, counted from one.
  have quotient : row / perPage.toNat ≤ row := Nat.div_le_self row perPage.toNat
  have number : (UInt64.ofNat (row / perPage.toNat + 1)).toNat = row / perPage.toNat + 1 :=
    UInt64.toNat_ofNat_of_lt' (by omega)
  have first : 1 ≤ UInt64.ofNat (row / perPage.toNat + 1) := by
    rw [UInt64.le_iff_toNat_le, number]
    exact Nat.le_add_left 1 _
  obtain ⟨descriptor, compiled⟩ := exists_compile_pageQuery accepts first positive
  have covers : descriptor.Covers row := by
    rw [covers_iff_of_compile first positive compiled below, number, Nat.add_sub_cancel]
  refine ⟨_, ⟨first, descriptor, compiled, covers⟩, ?_⟩
  rintro other ⟨otherFirst, otherDescriptor, otherCompiled, otherCovers⟩
  have same := (covers_iff_of_compile otherFirst positive otherCompiled below).mp otherCovers
  have above : 1 ≤ other.toNat := UInt64.le_iff_toNat_le.mp otherFirst
  rw [← UInt64.toNat_inj, number]
  omega

private theorem offset_le_of_page_le {later offset laterOffset : UInt64}
    {laterDescriptor : Descriptor}
    (first : 1 ≤ page) (positive : 1 ≤ perPage) (ordered : page ≤ later)
    (compiled : compile context (.ofJson (pageQuery page perPage)) = .ok descriptor)
    (laterCompiled : compile context (.ofJson (pageQuery later perPage)) = .ok laterDescriptor)
    (offsetSet : descriptor.offset = .set offset)
    (laterSet : laterDescriptor.offset = .set laterOffset) : offset ≤ laterOffset := by
  obtain ⟨other, otherSet, value, _⟩ := slots_of_compile_pageQuery first positive compiled
  obtain ⟨laterOther, laterOtherSet, laterValue, _⟩ :=
    slots_of_compile_pageQuery (UInt64.le_trans first ordered) positive laterCompiled
  rw [offsetSet] at otherSet
  rw [laterSet] at laterOtherSet
  cases otherSet
  cases laterOtherSet
  have before : page.toNat - 1 ≤ later.toNat - 1 :=
    Nat.sub_le_sub_right (UInt64.le_iff_toNat_le.mp ordered) 1
  have scaled := Nat.mul_le_mul_right perPage.toNat before
  rw [UInt64.le_iff_toNat_le, value, laterValue]
  omega

/-- The pages of one length tile the rows below the largest natural of 64 bits.  Their offsets
are exact up to that bound and stay there. -/
theorem pages_tile_rows (accepts : context.translator QuerySpec.emptyFilter = .ok predicate)
    (positive : 1 ≤ perPage) :
    (∀ row < UInt64.size - 1, ∃! page : UInt64, 1 ≤ page ∧ ∃ descriptor,
      compile context (.ofJson (pageQuery page perPage)) = .ok descriptor ∧
        descriptor.Covers row) ∧
    (∀ page : UInt64, 1 ≤ page → ∃ descriptor offset,
      compile context (.ofJson (pageQuery page perPage)) = .ok descriptor ∧
        descriptor.offset = .set offset ∧
        offset.toNat = min ((page.toNat - 1) * perPage.toNat) (UInt64.size - 1) ∧
        descriptor.limit = .set perPage) ∧
    ∀ (page later offset laterOffset : UInt64) (descriptor laterDescriptor : Descriptor),
      1 ≤ page → page ≤ later →
      compile context (.ofJson (pageQuery page perPage)) = .ok descriptor →
      compile context (.ofJson (pageQuery later perPage)) = .ok laterDescriptor →
      descriptor.offset = .set offset → laterDescriptor.offset = .set laterOffset →
      offset ≤ laterOffset := by
  refine ⟨fun row below => existsUnique_page accepts positive below, fun page first => ?_,
    fun page later offset laterOffset descriptor laterDescriptor first ordered =>
      offset_le_of_page_le first positive ordered⟩
  obtain ⟨descriptor, compiled⟩ := exists_compile_pageQuery accepts first positive
  obtain ⟨offset, offsetSet, value, limitSet⟩ :=
    slots_of_compile_pageQuery first positive compiled
  exact ⟨descriptor, offset, compiled, offsetSet, value, limitSet⟩

/-- Two pages of half the naturals hold all the rows; the offsets of the third page and of the
fourth are both the largest natural. -/
theorem pages_tile_rows_of_halves :
    let context : Context := ⟨fun _ => .ok none, Filter.translate⟩
    let half : UInt64 := 9223372036854775808
    (∃! page : UInt64, 1 ≤ page ∧ ∃ descriptor,
      compile context (.ofJson (pageQuery page half)) = .ok descriptor ∧
        descriptor.Covers 18446744073709551614) ∧
      ∃ third fourth,
        compile context (.ofJson (pageQuery 3 half)) = .ok third ∧
        compile context (.ofJson (pageQuery 4 half)) = .ok fourth ∧
        third.offset = .set 18446744073709551615 ∧
        fourth.offset = .set 18446744073709551615 := by
  intro context half
  have accepts : context.translator QuerySpec.emptyFilter = .ok .always := translate_emptyFilter
  have positive : 1 ≤ half := by decide
  obtain ⟨covered, slots, ordered⟩ := pages_tile_rows accepts positive
  obtain ⟨third, offset, compiled, offsetSet, value, _⟩ := slots 3 (by decide)
  obtain ⟨fourth, laterOffset, laterCompiled, laterSet, _, _⟩ := slots 4 (by decide)
  have largest : offset = 18446744073709551615 :=
    UInt64.toNat_inj.mp (value.trans (by decide))
  have between := ordered 3 4 offset laterOffset third fourth (by decide) (by decide) compiled
    laterCompiled offsetSet laterSet
  rw [largest] at between
  have bound : laterOffset ≤ 18446744073709551615 := Nat.le_of_lt_succ laterOffset.toNat_lt
  have last : laterOffset = 18446744073709551615 := UInt64.le_antisymm bound between
  rw [largest] at offsetSet
  rw [last] at laterSet
  exact ⟨covered _ (by decide), third, fourth, compiled, laterCompiled, offsetSet, laterSet⟩

end QueryCompiler
