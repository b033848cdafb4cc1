import QueryCompiler.Binary64

/-!
# Shortest decimals

`Decimal.shortest` gives the decimal with the fewest digits among those that
round to a given double, and of those the nearest to it.  `Layout.write`
lays such a decimal out as text: positionally in a range of exponents, and
with a mark and an exponent outside it.
-/

namespace QueryCompiler

/-- The number `digits * 10 ^ exponent`. -/
structure Decimal where
  digits : Nat
  exponent : Int
  deriving DecidableEq, Repr

namespace Decimal

/-- The reals that round to a double, with the double itself, each as a
numerator over the one `denominator`.  The ends belong to it when the
significand is even, as ties go there. -/
structure Interval where
  low : Nat
  middle : Nat
  high : Nat
  denominator : Nat
  closed : Bool

/-- The interval of a double.  Its ends lie half a step away; below a power of
two the step is half as wide. -/
def Interval.of (x : Binary64) : Interval where
  low := (4 * x.significand -
    (if x.significand = Nat.pow 2 52 ∧ x.exponent ≠ 0 then 1 else 2)) * Nat.pow 2 x.exponent
  middle := 4 * x.significand * Nat.pow 2 x.exponent
  high := (4 * x.significand + 2) * Nat.pow 2 x.exponent
  denominator := 4 * Binary64.unitsPerOne
  closed := x.significand % 2 == 0

def Interval.scaled (interval : Interval) (exponent : Int) : Interval :=
  let up := Nat.pow 10 (-exponent).toNat
  { interval with
    low := interval.low * up
    middle := interval.middle * up
    high := interval.high * up
    denominator := interval.denominator * Nat.pow 10 exponent.toNat }

def Interval.contains (interval : Interval) (candidate : Nat) : Bool :=
  let point := candidate * interval.denominator
  if interval.closed then
    interval.low ≤ point && point ≤ interval.high
  else
    interval.low < point && point < interval.high

/-- The natural in the interval that is nearest to its middle; a tie goes to
the even one. -/
def Interval.nearest? (interval : Interval) : Option Nat :=
  let below := interval.middle / interval.denominator
  let rounded := Binary64.roundQuotient interval.middle interval.denominator
  if interval.contains rounded then some rounded
  else if interval.contains below then some below
  else if interval.contains (below + 1) then some (below + 1)
  else none

/-- The nearest point of the first grid with a point in the interval, from
`10 ^ exponent` to finer ones. -/
def Interval.firstGrid (interval : Interval) : Nat → Int → Option Decimal
  | 0, _ => none
  | steps + 1, exponent =>
      match (interval.scaled exponent).nearest? with
      | some digits => some ⟨digits, exponent⟩
      | none => firstGrid interval steps (exponent - 1)

/-- An exponent whose power of ten exceeds the magnitude of a double. -/
def exponentAbove (x : Binary64) : Int :=
  ((x.units.log2 : Int) - 1073) * 30103 / 100000 + 1

/-- The decimal with the fewest digits that rounds to the magnitude of a
double, and of those the nearest.  Seventeen digits always suffice. -/
def shortest (x : Binary64) : Decimal :=
  if x.units = 0 then ⟨0, 0⟩
  else ((Interval.of x).firstGrid 20 (exponentAbove x)).getD ⟨0, 0⟩

/-! ## Layout -/

/-- The exponents of the first digit that are written positionally. -/
structure Layout where
  plainFrom : Int
  plainBelow : Int

/-- Lay out a decimal.  Positional text always has a fraction; otherwise one
digit stands before the point, and the exponent has its sign. -/
def Layout.write (layout : Layout) (decimal : Decimal) : List Char :=
  let digits := Nat.toDigits 10 decimal.digits
  let leading : Int := decimal.exponent + digits.length - 1
  let whole := (leading + 1).toNat
  if leading < layout.plainFrom ∨ layout.plainBelow ≤ leading then
    let fraction := digits.drop 1
    digits.take 1 ++ (if fraction.isEmpty then [] else '.' :: fraction) ++
      ['e', if leading < 0 then '-' else '+'] ++ Nat.toDigits 10 leading.natAbs
  else if leading < 0 then
    '0' :: '.' :: (List.replicate (-leading - 1).toNat '0' ++ digits)
  else
    let padded := digits ++ List.replicate (whole + 1 - digits.length) '0'
    padded.take whole ++ '.' :: padded.drop whole

end Decimal

end QueryCompiler
