import QueryCompiler.Binary64
import QueryCompiler.Decimal.Shortest

/-!
# JSON numbers

A number is a natural of 64 bits, a negative integer of 64 bits, or a finite
double.  The kinds are kept apart: `1` and `1.0` are different numbers, though
they compare as equal.
-/

namespace QueryCompiler.Json

/-- A number of one of the three kinds.  `negative below` is `-1 - below`. -/
inductive Number where
  | natural (value : UInt64)
  | negative (below : Fin (Nat.pow 2 63))
  | float (value : Binary64)
  deriving DecidableEq

namespace Number

/-- The integer of a number of an integer kind. -/
def toInt? : Number → Option Int
  | .natural value => some value.toNat
  | .negative below => some (Int.negSucc below)
  | .float _ => none

def ofInt? : Int → Option Number
  | .ofNat value => if value < UInt64.size then some (.natural (.ofNat value)) else none
  | .negSucc below => if h : below < Nat.pow 2 63 then some (.negative ⟨below, h⟩) else none

def toBinary64 : Number → Binary64
  | .natural value => .ofInt value.toNat
  | .negative below => .ofInt (Int.negSucc below)
  | .float value => value

/-- Numbers are the same when they have one kind and one value. -/
def same : Number → Number → Bool
  | .natural left, .natural right => left == right
  | .negative left, .negative right => left == right
  | .float left, .float right => left.sameValue right
  | _, _ => false

/-- Numbers are ordered by the doubles nearest to them. -/
def compare (left right : Number) : Ordering :=
  left.toBinary64.compare right.toBinary64

/-- Doubles are written positionally while their first digit stands between
the fifth place behind the point and the sixteenth place before it. -/
def floatLayout : Decimal.Layout := ⟨-5, 16⟩

def floatText (value : Binary64) : List Char :=
  (if value.negative then ['-'] else []) ++ floatLayout.write (Decimal.shortest value)

def text : Number → List Char
  | .natural value => Nat.toDigits 10 value.toNat
  | .negative below => '-' :: Nat.toDigits 10 (below + 1)
  | .float value => floatText value

end Number

end QueryCompiler.Json
