import Mathlib.Data.Rat.Cast.Order
import QueryCompiler.Proofs.Binary64.Integers
import QueryCompiler.Query.Normalize

/-!
# Naturals from raw input

A number of raw input is taken as a natural of 64 bits just if its exact value is that natural,
whichever kind the number is of.  The value `2 ^ 64` alone is let through as well, and taken as
the largest natural (`wholeNumber?_keepsValue_iff`).
-/

namespace QueryCompiler

open Json

/-! ## Values -/

namespace Binary64

/-- The exact value of a double. -/
def toRat (x : Binary64) : ℚ :=
  x.signedUnits / unitsPerOne

theorem toRat_eq_intCast_iff {x : Binary64} {value : Int} :
    x.toRat = value ↔ x.signedUnits = value * unitsPerOne := by
  have nonzero : (unitsPerOne : ℚ) ≠ 0 := Nat.cast_ne_zero.mpr (Nat.ne_of_gt unitsPerOne_pos)
  rw [toRat, div_eq_iff nonzero]
  exact_mod_cast Iff.rfl

theorem natAbs?_eq_some_iff {x : Binary64} {magnitude : Nat} :
    x.natAbs? = some magnitude ↔ x.units = magnitude * unitsPerOne := by
  unfold natAbs?
  split
  case isTrue whole =>
    rw [Option.some_inj, Nat.div_eq_iff_eq_mul_left unitsPerOne_pos (Nat.dvd_of_mod_eq_zero whole)]
  case isFalse broken =>
    refine iff_of_false (Option.some_ne_none magnitude).symm fun equal => broken ?_
    rw [equal, Nat.mul_mod_left]

/-- The integer that a double with a whole magnitude stands for. -/
def signed (x : Binary64) (magnitude : Nat) : Int :=
  if x.negative then -magnitude else magnitude

private theorem toRat_of_natAbs? {x : Binary64} {magnitude : Nat}
    (whole : x.natAbs? = some magnitude) :
    x.toRat = x.signed magnitude := by
  rw [toRat_eq_intCast_iff, signedUnits, signed, natAbs?_eq_some_iff.mp whole]
  split
  · rw [Nat.cast_mul, Int.neg_mul]
  · rw [Nat.cast_mul]

private theorem natAbs?_of_toRat {x : Binary64} {value : Int} (whole : x.toRat = value) :
    x.natAbs? = some value.natAbs := by
  have same := congrArg Int.natAbs (toRat_eq_intCast_iff.mp whole)
  have magnitude : x.signedUnits.natAbs = x.units := by
    unfold signedUnits
    split
    · rw [Int.natAbs_neg, Int.natAbs_natCast]
    · rw [Int.natAbs_natCast]
  rw [natAbs?_eq_some_iff, ← magnitude, same, Int.natAbs_mul, Int.natAbs_natCast]

end Binary64

namespace Json.Number

/-- The exact value of a number. -/
def toRat : Number → ℚ
  | .natural value => value.toNat
  | .negative below => Int.negSucc below
  | .float value => value.toRat

/-- A number is taken as a natural: as its value, and from `2 ^ 64` as the largest one. -/
def TakenAs (number : Number) (natural : UInt64) : Prop :=
  number.toRat = natural.toNat ∨
    number.toRat = UInt64.size ∧ natural.toNat = UInt64.size - 1

private theorem takenAs_iff_of_toRat {number : Number} {value : Int} (exact : number.toRat = value)
    {natural : UInt64} :
    number.TakenAs natural ↔
      value = natural.toNat ∨ value = UInt64.size ∧ natural.toNat = UInt64.size - 1 := by
  rw [TakenAs, exact]
  exact_mod_cast Iff.rfl

end Json.Number

private theorem wholeFloat?_of_natAbs? {x : Binary64} {magnitude : Nat}
    (whole : x.natAbs? = some magnitude) (natural : UInt64) :
    wholeFloat? x = some natural ↔
      x.signed magnitude = natural.toNat ∨
        x.signed magnitude = UInt64.size ∧ natural.toNat = UInt64.size - 1 := by
  have bound : natural.toNat < UInt64.size := natural.toNat_lt
  have taken : UInt64.ofNat (min magnitude (UInt64.size - 1)) = natural ↔
      min magnitude (UInt64.size - 1) = natural.toNat := by
    have small : min magnitude (UInt64.size - 1) < UInt64.size := by omega
    rw [← UInt64.toNat_inj, UInt64.toNat_ofNat_of_lt' small]
  unfold wholeFloat? Binary64.signed
  simp only [whole, Bool.and_eq_true, bne_iff_ne]
  by_cases below : x.negative = true ∧ magnitude ≠ 0
  · have negative := below.1
    rw [if_pos below, if_pos negative]
    exact iff_of_false nofun (by omega)
  · rw [if_neg below]
    have value : (if x.negative then -(magnitude : Int) else magnitude) = magnitude := by
      split
      case isTrue negative =>
        have zero : magnitude = 0 := not_not.mp fun nonzero => below ⟨negative, nonzero⟩
        rw [zero]
        rfl
      case isFalse => rfl
    rw [value]
    split
    · exact iff_of_false nofun (by omega)
    · have next : UInt64.size - 1 + 1 = UInt64.size := rfl
      rw [Option.some_inj, taken]
      omega

theorem wholeFloat?_eq_some_iff {x : Binary64} {natural : UInt64} :
    wholeFloat? x = some natural ↔ (Number.float x).TakenAs natural := by
  cases whole : x.natAbs? with
  | some magnitude =>
      have exact : (Number.float x).toRat = x.signed magnitude :=
        Binary64.toRat_of_natAbs? whole
      rw [wholeFloat?_of_natAbs? whole, Number.takenAs_iff_of_toRat exact]
  | none =>
      -- A value that is an integer has a whole magnitude.
      have broken (value : Nat) : x.toRat ≠ value := by
        intro same
        have integral : x.toRat = (value : Int) := by exact_mod_cast same
        have found := Binary64.natAbs?_of_toRat integral
        rw [whole] at found
        cases found
      have refused : wholeFloat? x = none := by
        unfold wholeFloat?
        rw [whole]
      rw [refused]
      exact iff_of_false nofun fun taken => taken.elim (broken _) fun both => broken _ both.1

/-- A number is accepted just for the natural that it is taken as, by its exact value. -/
theorem wholeNumber?_eq_some_iff {number : Number} {natural : UInt64} :
    wholeNumber? (.number number) = some natural ↔ number.TakenAs natural := by
  have bound : natural.toNat < UInt64.size := natural.toNat_lt
  cases number with
  | natural value =>
      have small : value.toNat < UInt64.size := value.toNat_lt
      have exact : (Number.natural value).toRat = (value.toNat : Int) := rfl
      rw [Number.takenAs_iff_of_toRat exact, wholeNumber?, Option.some_inj, ← UInt64.toNat_inj]
      omega
  | negative below =>
      have exact : (Number.negative below).toRat = (Int.negSucc below : Int) := rfl
      rw [Number.takenAs_iff_of_toRat exact]
      exact iff_of_false nofun (by omega)
  | float value => exact wholeFloat?_eq_some_iff

/-! ## Fields -/

/-- A number is taken as a page or as the length of pages: as a natural above zero, if it is
taken as one, and else as the default. -/
def Json.Number.TakenAsPage (number : Number) (default natural : UInt64) : Prop :=
  1 ≤ natural ∧ number.TakenAs natural ∨
    natural = default ∧ ∀ other, 1 ≤ other → ¬ number.TakenAs other

theorem positiveNumber?_eq_some_iff {number : Number} {natural : UInt64} :
    positiveNumber? (.number number) = some natural ↔ 1 ≤ natural ∧ number.TakenAs natural := by
  rw [positiveNumber?, Option.filter_eq_some_iff, wholeNumber?_eq_some_iff, decide_eq_true_iff,
    and_comm]

theorem getD_positiveNumber?_eq_iff {number : Number} {default natural : UInt64} :
    (positiveNumber? (.number number)).getD default = natural ↔
      number.TakenAsPage default natural := by
  cases found : positiveNumber? (.number number) with
  | none =>
      have untaken (other : UInt64) (positive : 1 ≤ other) : ¬ number.TakenAs other := by
        intro taken
        rw [positiveNumber?_eq_some_iff.mpr ⟨positive, taken⟩] at found
        cases found
      constructor
      · rintro rfl
        exact .inr ⟨rfl, untaken⟩
      · rintro (⟨positive, taken⟩ | ⟨same, _⟩)
        · exact absurd taken (untaken natural positive)
        · exact same.symm
  | some other =>
      have taken := positiveNumber?_eq_some_iff.mp found
      rw [Option.getD_some]
      constructor
      · rintro rfl
        exact .inl taken
      · rintro (⟨positive, natural⟩ | ⟨_, untaken⟩)
        · have again := positiveNumber?_eq_some_iff.mpr ⟨positive, natural⟩
          rw [found] at again
          exact Option.some_inj.mp again
        · exact absurd taken.2 (untaken other taken.1)

/-! ## Kept values -/

/-- A number is accepted just as the natural of its value. -/
def Json.Number.KeepsValue (number : Number) : Prop :=
  ∀ natural : UInt64,
    wholeNumber? (.number number) = some natural ↔ number.toRat = natural.toNat

theorem keepsValue_iff {number : Number} :
    number.KeepsValue ↔ number.toRat ≠ UInt64.size := by
  constructor
  · intro keeps bound
    have largest : number.TakenAs (.ofNat (UInt64.size - 1)) := .inr ⟨bound, rfl⟩
    have same := (keeps _).mp (wholeNumber?_eq_some_iff.mpr largest)
    rw [bound] at same
    exact absurd (Nat.cast_injective same) (by decide)
  · intro within natural
    rw [wholeNumber?_eq_some_iff]
    exact or_iff_left fun both => within both.1

/-- A number of raw input is accepted as a natural by its exact value, and taken as that very
natural if and only if the value is not `2 ^ 64`, from which it is taken as the largest natural.
So it is where a page, the length of pages or the limit of an association is asked for. -/
theorem wholeNumber?_keepsValue_iff (number : Number) :
    (∀ natural, wholeNumber? (.number number) = some natural ↔ number.TakenAs natural) ∧
      (number.KeepsValue ↔ number.toRat ≠ UInt64.size) ∧
      ∀ (members : Members) (natural : UInt64),
        (members.lookup "page" = some (.number number) →
          ((QuerySpec.ofJson (.object members)).page = natural ↔
            number.TakenAsPage QuerySpec.defaultPage natural)) ∧
        (members.lookup "perPage" = some (.number number) →
          ((QuerySpec.ofJson (.object members)).perPage = natural ↔
            number.TakenAsPage QuerySpec.defaultPerPage natural)) ∧
        (members.lookup "limit" = some (.number number) →
          ((ExpandRequest.ofJson (.object members)).limit = some natural ↔
            number.TakenAs natural)) := by
  refine ⟨fun _ => wholeNumber?_eq_some_iff, keepsValue_iff,
    fun members natural => ⟨fun asked => ?_, fun asked => ?_, fun asked => ?_⟩⟩
  · rw [QuerySpec.ofJson, asked, Option.bind_some, getD_positiveNumber?_eq_iff]
  · rw [QuerySpec.ofJson, asked, Option.bind_some, getD_positiveNumber?_eq_iff]
  · have limit : (ExpandRequest.ofJson (.object members)).limit =
        wholeNumber? (.number number) := by
      simp only [ExpandRequest.ofJson, member?, asked, Option.bind_some]
    rw [limit, wholeNumber?_eq_some_iff]

/-- An integral double is taken as its value. -/
theorem wholeNumber?_keepsValue_three :
    let members : Members := [("page", .number (.float (.ofInt 3))),
      ("limit", .number (.float (.ofInt 3)))]
    (QuerySpec.ofJson (.object members)).page = 3 ∧
      (ExpandRequest.ofJson (.object members)).limit = some 3 := by
  intro members
  obtain ⟨_, _, fields⟩ := wholeNumber?_keepsValue_iff (.float (.ofInt 3))
  have value : (Number.float (.ofInt 3)).toRat = (3 : Int) :=
    Binary64.toRat_eq_intCast_iff.mpr (by decide +kernel)
  have taken : (Number.float (.ofInt 3)).TakenAs 3 := .inl value
  obtain ⟨page, _, limit⟩ := fields members 3
  exact ⟨(page rfl).mpr (.inl ⟨by decide, taken⟩), (limit rfl).mpr taken⟩

/-- The double `2 ^ 64`. -/
def beyondNaturals : Binary64 :=
  ⟨false, 4503599627370496, 1086, by decide, by decide, by decide⟩

/-- The double `2 ^ 64` is no natural of 64 bits, but taken as one. -/
theorem not_keepsValue_beyond :
    (Number.float beyondNaturals).toRat = 18446744073709551616 ∧
      wholeNumber? (.number (.float beyondNaturals)) = some 18446744073709551615 ∧
      (QuerySpec.ofJson (.object [("page", .number (.float beyondNaturals))])).page =
        18446744073709551615 ∧
      ¬ (Number.float beyondNaturals).KeepsValue := by
  have value : (Number.float beyondNaturals).toRat = (18446744073709551616 : Int) :=
    Binary64.toRat_eq_intCast_iff.mpr (by decide +kernel)
  have taken : wholeNumber? (.number (.float beyondNaturals)) = some 18446744073709551615 := by
    decide +kernel
  have page : (QuerySpec.ofJson (.object [("page", .number (.float beyondNaturals))])).page =
      18446744073709551615 := by
    decide +kernel
  refine ⟨value, taken, page, fun keeps => ?_⟩
  have same := (keeps _).mp taken
  rw [value] at same
  exact absurd (Nat.cast_injective same) (by decide)

end QueryCompiler
