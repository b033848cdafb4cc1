/-!
# Finite binary64 numbers

A finite double is a sign and a whole number of units of `2 ^ -1074`, the least
positive double.  Both zeros are kept apart, as their texts differ; every
comparison and every rounding is exact arithmetic on the units.

The main operations are `ofQuotient?`, which rounds a quotient of naturals to
the nearest double, and `compare`, the order of the values.  Powers are written
with `Nat.pow`, so that no other reading of `^` takes part in them.
-/

namespace QueryCompiler

/-- A finite double: `significand * 2 ^ exponent` units of `2 ^ -1074`.  A
significand below `2 ^ 52` goes with the least exponent only, so each number
has one representation, apart from the sign of zero. -/
structure Binary64 where
  negative : Bool
  significand : Nat
  exponent : Nat
  significand_lt : significand < Nat.pow 2 53
  exponent_le : exponent ≤ 2045
  normal : exponent = 0 ∨ Nat.pow 2 52 ≤ significand
  deriving DecidableEq

namespace Binary64

/-- How many times the unit `2 ^ -1074` goes into one. -/
def unitsPerOne : Nat := Nat.pow 2 1074

/-- The magnitude, counted in units. -/
def units (x : Binary64) : Nat :=
  x.significand * Nat.pow 2 x.exponent

def signedUnits (x : Binary64) : Int :=
  if x.negative then -(x.units : Int) else x.units

def zero (negative : Bool) : Binary64 :=
  ⟨negative, 0, 0, by decide, by decide, .inl rfl⟩

/-- The largest finite magnitude, with the given sign. -/
def largest (negative : Bool) : Binary64 :=
  ⟨negative, Nat.pow 2 53 - 1, 2045, by decide, by decide, .inr (by decide)⟩

def withSign (x : Binary64) (negative : Bool) : Binary64 :=
  { x with negative := negative }

/-! ## Order -/

/-- The order of the values; the two zeros are equal. -/
def compare (x y : Binary64) : Ordering :=
  Ord.compare x.signedUnits y.signedUnits

def sameValue (x y : Binary64) : Bool :=
  x.signedUnits == y.signedUnits

/-! ## Rounding -/

/-- The natural nearest to a quotient; a half goes to the even neighbour. -/
def roundQuotient (numerator denominator : Nat) : Nat :=
  let quotient := numerator / denominator
  let twice := 2 * (numerator % denominator)
  if denominator < twice ∨ (twice = denominator ∧ quotient % 2 = 1) then
    quotient + 1
  else
    quotient

/-- The double nearest to `numerator / denominator` units.  The quotient is
rounded on the grid of its binade; there is none beyond the largest one. -/
def ofUnitQuotient? (negative : Bool) (numerator denominator : Nat) : Option Binary64 :=
  let exponent := (numerator / denominator).log2 + 1 - 53
  let significand := roundQuotient numerator (denominator * Nat.pow 2 exponent)
  if h : significand < Nat.pow 2 53 ∧ exponent ≤ 2045 ∧
      (exponent = 0 ∨ Nat.pow 2 52 ≤ significand) then
    some ⟨negative, significand, exponent, h.1, h.2.1, h.2.2⟩
  else if h : significand = Nat.pow 2 53 ∧ exponent + 1 ≤ 2045 then
    some ⟨negative, Nat.pow 2 52, exponent + 1, by decide, h.2, .inr (Nat.le_refl _)⟩
  else
    none

def ofQuotient? (negative : Bool) (numerator denominator : Nat) : Option Binary64 :=
  ofUnitQuotient? negative (numerator * unitsPerOne) denominator

/-- The double nearest to an integer; beyond the largest one, the largest. -/
def ofInt (value : Int) : Binary64 :=
  let negative := decide (value < 0)
  (ofQuotient? negative value.natAbs 1).getD (largest negative)

/-- The product of two magnitudes, rounded to the nearest double. -/
def mul? (x y : Binary64) : Option Binary64 :=
  ofUnitQuotient? (x.negative != y.negative) (x.units * y.units) unitsPerOne

def div? (x y : Binary64) : Option Binary64 :=
  ofUnitQuotient? (x.negative != y.negative) (x.units * unitsPerOne) y.units

def powerOfTen (exponent : Nat) : Binary64 :=
  ofInt (Nat.pow 10 exponent)

/-! ## Integers among the doubles -/

/-- The magnitude as a natural, if it is one. -/
def natAbs? (x : Binary64) : Option Nat :=
  if x.units % unitsPerOne = 0 then some (x.units / unitsPerOne) else none

end Binary64

end QueryCompiler
