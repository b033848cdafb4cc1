import Mathlib.Data.Nat.Log
import QueryCompiler.Binary64

/-!
# The doubles nearest to integers

A double holds 53 binary digits, so an integer keeps its first 53 digits and is rounded at the
others.  `nearestInteger` says which integer that gives without any double: it changes no
integer up to `2 ^ 53`, keeps the order of integers, and moves no integer of 64 digits by more
than 1024.
-/

namespace QueryCompiler.Binary64

/-! ## Rounded quotients -/

section

variable {numerator denominator : Nat}

theorem roundQuotient_eq_or (numerator denominator : Nat) :
    roundQuotient numerator denominator = numerator / denominator ∨
      roundQuotient numerator denominator = numerator / denominator + 1 := by
  unfold roundQuotient
  dsimp only
  split
  · exact .inr rfl
  · exact .inl rfl

theorem roundQuotient_mul_self (quotient : Nat) (positive : 0 < denominator) :
    roundQuotient (quotient * denominator) denominator = quotient := by
  unfold roundQuotient
  dsimp only
  rw [Nat.mul_div_cancel _ positive, Nat.mul_mod_left]
  split
  case isTrue up => omega
  case isFalse => rfl

theorem roundQuotient_mul_right (numerator denominator : Nat) {factor : Nat}
    (positive : 0 < factor) :
    roundQuotient (numerator * factor) (denominator * factor) =
      roundQuotient numerator denominator := by
  have above : denominator * factor < 2 * (numerator % denominator * factor) ↔
      denominator < 2 * (numerator % denominator) := by
    rw [← Nat.mul_assoc, Nat.mul_lt_mul_right positive]
  have half : 2 * (numerator % denominator * factor) = denominator * factor ↔
      2 * (numerator % denominator) = denominator := by
    rw [← Nat.mul_assoc, Nat.mul_left_inj (Nat.ne_of_gt positive)]
  unfold roundQuotient
  simp only [Nat.mul_div_mul_right _ _ positive, Nat.mul_mod_mul_right, above, half]

theorem roundQuotient_mono (denominator : Nat) {smaller larger : Nat} (le : smaller ≤ larger) :
    roundQuotient smaller denominator ≤ roundQuotient larger denominator := by
  have quotients : smaller / denominator ≤ larger / denominator := Nat.div_le_div_right le
  have ofSmaller := roundQuotient_eq_or smaller denominator
  have ofLarger := roundQuotient_eq_or larger denominator
  rcases Nat.lt_or_eq_of_le quotients with less | equal
  · omega
  · -- With one quotient, the remainders are in the order of the numerators.
    have smallerParts := Nat.div_add_mod smaller denominator
    have largerParts := Nat.div_add_mod larger denominator
    rw [equal] at smallerParts
    have remainders : smaller % denominator ≤ larger % denominator := by omega
    unfold roundQuotient
    dsimp only
    rw [equal]
    split
    · split
      · exact Nat.le_refl _
      · omega
    · split
      · exact Nat.le_succ _
      · exact Nat.le_refl _

private theorem le_roundQuotient {quotient : Nat} (positive : 0 < denominator)
    (le : quotient * denominator ≤ numerator) :
    quotient ≤ roundQuotient numerator denominator := by
  have mono := roundQuotient_mono denominator le
  rwa [roundQuotient_mul_self quotient positive] at mono

theorem roundQuotient_le {quotient : Nat} (positive : 0 < denominator)
    (le : numerator ≤ quotient * denominator) :
    roundQuotient numerator denominator ≤ quotient := by
  have mono := roundQuotient_mono denominator le
  rwa [roundQuotient_mul_self quotient positive] at mono

theorem roundQuotient_within_half (numerator : Nat) (positive : 0 < denominator) :
    2 * numerator ≤ 2 * (roundQuotient numerator denominator * denominator) + denominator ∧
      2 * (roundQuotient numerator denominator * denominator) ≤ 2 * numerator + denominator := by
  have parts := Nat.div_add_mod' numerator denominator
  have remainder := Nat.mod_lt numerator positive
  unfold roundQuotient
  dsimp only
  split
  case isTrue up =>
    rw [Nat.add_mul, Nat.one_mul]
    omega
  case isFalse down => omega

end

/-! ## Naturals -/

/-- The distance between the doubles around a natural, as far as it is no fraction. -/
def spacing (value : Nat) : Nat :=
  Nat.pow 2 (value.log2 - 52)

/-- A natural rounded to 53 binary digits. -/
def nearestNatural (value : Nat) : Nat :=
  roundQuotient value (spacing value) * spacing value

theorem spacing_pos (value : Nat) : 0 < spacing value :=
  Nat.pow_pos (by decide)

private theorem spacing_of_log2_le {value : Nat} (short : value.log2 ≤ 52) : spacing value = 1 := by
  rw [spacing, Nat.sub_eq_zero_of_le short]

/-- A power of two that is not below the spacing is a multiple of it. -/
theorem pow_eq_mul_spacing (value exponent : Nat) (le : value.log2 - 52 ≤ exponent) :
    Nat.pow 2 exponent = Nat.pow 2 (exponent - (value.log2 - 52)) * spacing value := by
  have sum : exponent - (value.log2 - 52) + (value.log2 - 52) = exponent := by omega
  have product := Nat.pow_add 2 (exponent - (value.log2 - 52)) (value.log2 - 52)
  rw [sum] at product
  exact product

private theorem nearestNatural_of_eq_mul {value : Nat} (quotient : Nat)
    (multiple : value = quotient * spacing value) : nearestNatural value = value := by
  have exact := roundQuotient_mul_self quotient (spacing_pos value)
  rw [← multiple] at exact
  rw [nearestNatural, exact, ← multiple]

private theorem nearestNatural_of_log2_le {value : Nat} (short : value.log2 ≤ 52) :
    nearestNatural value = value := by
  apply nearestNatural_of_eq_mul value
  rw [spacing_of_log2_le short, Nat.mul_one]

private theorem pow_log2_le_nearestNatural {value : Nat} (positive : value ≠ 0) :
    Nat.pow 2 value.log2 ≤ nearestNatural value := by
  have multiple := pow_eq_mul_spacing value value.log2 (Nat.sub_le value.log2 52)
  have below : Nat.pow 2 value.log2 ≤ value := Nat.log2_self_le positive
  rw [multiple] at below ⊢
  exact Nat.mul_le_mul_right _ (le_roundQuotient (spacing_pos value) below)

private theorem nearestNatural_le_pow_log2 (value : Nat) :
    nearestNatural value ≤ Nat.pow 2 (value.log2 + 1) := by
  have multiple := pow_eq_mul_spacing value (value.log2 + 1) (by omega)
  have above : value ≤ Nat.pow 2 (value.log2 + 1) := Nat.le_of_lt Nat.lt_log2_self
  rw [multiple] at above ⊢
  exact Nat.mul_le_mul_right _ (roundQuotient_le (spacing_pos value) above)

private theorem significand_le (value : Nat) :
    roundQuotient value (spacing value) ≤ Nat.pow 2 53 := by
  have multiple := pow_eq_mul_spacing value (value.log2 + 1) (by omega)
  have room : value.log2 + 1 - (value.log2 - 52) ≤ 53 := by omega
  have above : value ≤ Nat.pow 2 (value.log2 + 1) := Nat.le_of_lt Nat.lt_log2_self
  rw [multiple] at above
  calc
    roundQuotient value (spacing value) ≤ Nat.pow 2 (value.log2 + 1 - (value.log2 - 52)) :=
      roundQuotient_le (spacing_pos value) above
    _ ≤ Nat.pow 2 53 := Nat.pow_le_pow_right (by decide) room

/-- The significand has all of its 53 digits, unless the natural has fewer. -/
theorem le_significand (value : Nat) :
    value.log2 - 52 = 0 ∨ Nat.pow 2 52 ≤ roundQuotient value (spacing value) := by
  by_cases short : value.log2 ≤ 52
  · exact .inl (Nat.sub_eq_zero_of_le short)
  · have positive : value ≠ 0 := by
      rintro rfl
      simp at short
    have multiple := pow_eq_mul_spacing value value.log2 (Nat.sub_le value.log2 52)
    have below : Nat.pow 2 value.log2 ≤ value := Nat.log2_self_le positive
    have digits : value.log2 - (value.log2 - 52) = 52 := by omega
    rw [multiple, digits] at below
    exact .inr (le_roundQuotient (spacing_pos value) below)

private theorem nearestNatural_mono {smaller larger : Nat} (le : smaller ≤ larger) :
    nearestNatural smaller ≤ nearestNatural larger := by
  have digits : smaller.log2 ≤ larger.log2 := by
    rw [Nat.log2_eq_log_two, Nat.log2_eq_log_two]
    exact Nat.log_mono_right le
  rcases Nat.lt_or_eq_of_le digits with shorter | equal
  · -- A power of two lies between them, and rounding does not cross it.
    have positive : larger ≠ 0 := by
      rintro rfl
      simp at shorter
    calc
      nearestNatural smaller ≤ Nat.pow 2 (smaller.log2 + 1) := nearestNatural_le_pow_log2 smaller
      _ ≤ Nat.pow 2 larger.log2 := Nat.pow_le_pow_right (by decide) shorter
      _ ≤ nearestNatural larger := pow_log2_le_nearestNatural positive
  · have same : spacing smaller = spacing larger := by rw [spacing, spacing, equal]
    unfold nearestNatural
    rw [same]
    exact Nat.mul_le_mul_right _ (roundQuotient_mono _ le)

private theorem log2_mul_pow {value : Nat} (positive : value ≠ 0) (exponent : Nat) :
    (value * Nat.pow 2 exponent).log2 = value.log2 + exponent := by
  have factor : 0 < Nat.pow 2 exponent := Nat.pow_pos (by decide)
  have nonzero : value * Nat.pow 2 exponent ≠ 0 := Nat.mul_ne_zero positive (Nat.ne_of_gt factor)
  rw [Nat.log2_eq_iff nonzero, Nat.pow_add, Nat.add_right_comm, Nat.pow_add]
  exact ⟨Nat.mul_le_mul_right _ (Nat.log2_self_le positive),
    Nat.mul_lt_mul_of_pos_right Nat.lt_log2_self factor⟩

/-- Rounding looks at the digits only, not at the place of the point behind them. -/
theorem nearestNatural_mul_pow (value exponent : Nat) :
    nearestNatural (value * Nat.pow 2 exponent) = nearestNatural value * Nat.pow 2 exponent := by
  by_cases zero : value = 0
  · have nothing : nearestNatural 0 = 0 := nearestNatural_of_log2_le (by decide)
    rw [zero, Nat.zero_mul, nothing, Nat.zero_mul]
  have shifted := log2_mul_pow zero exponent
  have factor : 0 < Nat.pow 2 exponent := Nat.pow_pos (by decide)
  by_cases short : value.log2 ≤ 52
  · rw [nearestNatural_of_log2_le short]
    have multiple := pow_eq_mul_spacing (value * Nat.pow 2 exponent) exponent (by omega)
    apply nearestNatural_of_eq_mul
    rw [Nat.mul_assoc, ← multiple]
  · have wider : spacing (value * Nat.pow 2 exponent) = spacing value * Nat.pow 2 exponent := by
      have sum : value.log2 + exponent - 52 = value.log2 - 52 + exponent := by omega
      rw [spacing, shifted, sum]
      exact Nat.pow_add 2 _ _
    unfold nearestNatural
    rw [wider, roundQuotient_mul_right _ _ factor, Nat.mul_assoc]

private theorem log2_le_of_lt_pow {value digits : Nat} (small : value < Nat.pow 2 (digits + 1)) :
    value.log2 ≤ digits := by
  by_cases zero : value = 0
  · simp [zero]
  · exact Nat.le_of_lt_succ ((Nat.log2_lt zero).mpr small)

private theorem nearestNatural_within {value : Nat} (small : value < Nat.pow 2 64) :
    value ≤ nearestNatural value + 1024 ∧ nearestNatural value ≤ value + 1024 := by
  have digits : value.log2 ≤ 63 := log2_le_of_lt_pow small
  have narrow : spacing value ≤ Nat.pow 2 11 := Nat.pow_le_pow_right (by decide) (by omega)
  have half := roundQuotient_within_half value (spacing_pos value)
  have bound : Nat.pow 2 11 = 2048 := by decide
  unfold nearestNatural
  omega

/-! ## Integers -/

/-- An integer rounded to 53 binary digits. -/
def nearestInteger (value : Int) : Int :=
  if value < 0 then -(nearestNatural value.natAbs : Int) else nearestNatural value.natAbs

private theorem nearestInteger_of_natAbs_le {value : Int} (small : value.natAbs ≤ Nat.pow 2 53) :
    nearestInteger value = value := by
  have same : nearestNatural value.natAbs = value.natAbs := by
    rcases Nat.lt_or_eq_of_le small with less | equal
    · exact nearestNatural_of_log2_le (log2_le_of_lt_pow less)
    · rw [equal]
      decide
  rw [nearestInteger, same]
  split
  · omega
  · omega

theorem nearestInteger_mono {smaller larger : Int} (le : smaller ≤ larger) :
    nearestInteger smaller ≤ nearestInteger larger := by
  unfold nearestInteger
  split
  · split
    · have mono : nearestNatural larger.natAbs ≤ nearestNatural smaller.natAbs :=
        nearestNatural_mono (by omega)
      omega
    · omega
  · split
    · omega
    · have mono : nearestNatural smaller.natAbs ≤ nearestNatural larger.natAbs :=
        nearestNatural_mono (by omega)
      omega

private theorem nearestInteger_within {value : Int} (small : value.natAbs < Nat.pow 2 64) :
    value ≤ nearestInteger value + 1024 ∧ nearestInteger value ≤ value + 1024 := by
  have within := nearestNatural_within small
  unfold nearestInteger
  split
  · omega
  · omega

/-- An integer that is rounded to the same one as another is not below `2 ^ 53`. -/
theorem le_natAbs_of_nearestInteger_eq {left right : Int}
    (same : nearestInteger left = nearestInteger right) (different : left ≠ right) :
    Nat.pow 2 53 ≤ left.natAbs := by
  apply Nat.le_of_not_lt
  intro short
  have leftKept : nearestInteger left = left := nearestInteger_of_natAbs_le (by omega)
  by_cases rightShort : right.natAbs ≤ Nat.pow 2 53
  · have rightKept := nearestInteger_of_natAbs_le rightShort
    omega
  -- Rounding does not bring the other one back over the limit.
  rcases Int.le_total 0 right with nonnegative | nonpositive
  · have limit : nearestInteger (Nat.pow 2 53) = Nat.pow 2 53 :=
      nearestInteger_of_natAbs_le (by omega)
    have above : nearestInteger (Nat.pow 2 53) ≤ nearestInteger right :=
      nearestInteger_mono (by omega)
    omega
  · have limit : nearestInteger (-(Nat.pow 2 53 : Nat)) = -(Nat.pow 2 53 : Nat) :=
      nearestInteger_of_natAbs_le (by omega)
    have below : nearestInteger right ≤ nearestInteger (-(Nat.pow 2 53 : Nat)) :=
      nearestInteger_mono (by omega)
    omega

theorem natAbs_sub_le_of_nearestInteger_eq {left right : Int}
    (leftSmall : left.natAbs < Nat.pow 2 64) (rightSmall : right.natAbs < Nat.pow 2 64)
    (same : nearestInteger left = nearestInteger right) : (left - right).natAbs ≤ 2048 := by
  have leftWithin := nearestInteger_within leftSmall
  have rightWithin := nearestInteger_within rightSmall
  omega

/-! ## Doubles of integers -/

/-- A quotient whose rounded significand fits into a double has a nearest double. -/
theorem exists_ofUnitQuotient? (negative : Bool) {numerator denominator exponent : Nat}
    (places : (numerator / denominator).log2 + 1 - 53 = exponent) (room : exponent + 1 ≤ 2045)
    (lower : exponent = 0 ∨
      Nat.pow 2 52 ≤ roundQuotient numerator (denominator * Nat.pow 2 exponent))
    (upper : roundQuotient numerator (denominator * Nat.pow 2 exponent) ≤ Nat.pow 2 53) :
    ∃ double, ofUnitQuotient? negative numerator denominator = some double ∧
      double.negative = negative ∧
      double.units =
        roundQuotient numerator (denominator * Nat.pow 2 exponent) * Nat.pow 2 exponent := by
  subst places
  unfold ofUnitQuotient?
  dsimp only
  split
  case isTrue => exact ⟨_, rfl, rfl, rfl⟩
  case isFalse outside =>
    -- The significand was rounded up to the next power of two.
    have full : roundQuotient numerator
        (denominator * Nat.pow 2 ((numerator / denominator).log2 + 1 - 53)) = Nat.pow 2 53 := by
      omega
    have carried : ∀ places, Nat.pow 2 52 * Nat.pow 2 (places + 1) =
        Nat.pow 2 53 * Nat.pow 2 places := by
      intro places
      calc
        Nat.pow 2 52 * (Nat.pow 2 places * 2) = Nat.pow 2 52 * 2 * Nat.pow 2 places := by
          ac_rfl
        _ = Nat.pow 2 53 * Nat.pow 2 places := rfl
    rw [dif_pos ⟨full, room⟩]
    exact ⟨_, rfl, rfl, (carried _).trans (congrArg (· * _) full.symm)⟩

private theorem exists_ofUnits (negative : Bool) {numerator : Nat} (small : numerator.log2 ≤ 2096) :
    ∃ double, ofUnitQuotient? negative numerator 1 = some double ∧
      double.negative = negative ∧ double.units = nearestNatural numerator := by
  have places : (numerator / 1).log2 + 1 - 53 = numerator.log2 - 52 := by
    rw [Nat.div_one]
    omega
  have rounded : roundQuotient numerator (1 * Nat.pow 2 (numerator.log2 - 52)) =
      roundQuotient numerator (spacing numerator) := by
    rw [Nat.one_mul, spacing]
  have lower := le_significand numerator
  have upper := significand_le numerator
  rw [← rounded] at lower upper
  obtain ⟨double, found, sign, units⟩ :=
    exists_ofUnitQuotient? negative places (by omega) lower upper
  rw [rounded] at units
  exact ⟨double, found, sign, units⟩

/-- That there are this many units is of no account, except that they fit into a double. -/
theorem unitsPerOne_eq_pow : ∃ places, places ≤ 2000 ∧ unitsPerOne = Nat.pow 2 places := by
  unfold unitsPerOne
  exact ⟨1074, by decide, rfl⟩

theorem unitsPerOne_pos : 0 < unitsPerOne := by
  obtain ⟨places, _, unit⟩ := unitsPerOne_eq_pow
  rw [unit]
  exact Nat.pow_pos (by decide)

private theorem signedUnits_ofInt {value : Int} (small : value.natAbs < Nat.pow 2 64) :
    (ofInt value).signedUnits = nearestInteger value * unitsPerOne := by
  obtain ⟨places, bound, unit⟩ := unitsPerOne_eq_pow
  have digits : (value.natAbs * unitsPerOne).log2 ≤ 2096 := by
    by_cases zero : value.natAbs = 0
    · simp [zero]
    · have shifted := log2_mul_pow zero places
      have short : value.natAbs.log2 ≤ 63 := log2_le_of_lt_pow small
      rw [unit]
      omega
  obtain ⟨double, found, sign, units⟩ := exists_ofUnits (decide (value < 0)) digits
  have whole : double.units = nearestNatural value.natAbs * unitsPerOne := by
    rw [units, unit, nearestNatural_mul_pow]
  have nearest : ofInt value = double := by
    unfold ofInt ofQuotient?
    dsimp only
    rw [found, Option.getD_some]
  rw [nearest, signedUnits, sign, whole, nearestInteger]
  by_cases negative : value < 0
  · rw [if_pos (decide_eq_true negative), if_pos negative, Int.natCast_mul, Int.neg_mul]
  · rw [if_neg (mt of_decide_eq_true negative), if_neg negative, Int.natCast_mul]

/-- The doubles nearest to two integers are ordered as the integers of their first 53
digits. -/
theorem compare_ofInt {left right : Int} (leftSmall : left.natAbs < Nat.pow 2 64)
    (rightSmall : right.natAbs < Nat.pow 2 64) :
    (ofInt left).compare (ofInt right) =
      Ord.compare (nearestInteger left) (nearestInteger right) := by
  have unit : (0 : Int) < unitsPerOne := Int.natCast_pos.mpr unitsPerOne_pos
  rw [compare, signedUnits_ofInt leftSmall, signedUnits_ofInt rightSmall]
  rcases Int.lt_trichotomy (nearestInteger left) (nearestInteger right) with
    less | equal | greater
  · rw [Int.compare_eq_lt.mpr less]
    exact Int.compare_eq_lt.mpr (Int.mul_lt_mul_of_pos_right less unit)
  · rw [equal, Int.compare_eq_eq.mpr rfl, Int.compare_eq_eq.mpr rfl]
  · rw [Int.compare_eq_gt.mpr greater]
    exact Int.compare_eq_gt.mpr (Int.mul_lt_mul_of_pos_right greater unit)

end QueryCompiler.Binary64
