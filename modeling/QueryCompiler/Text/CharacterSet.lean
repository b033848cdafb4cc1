/-!
# Sets of characters

A set of characters is kept as the increasing list of the code points at which
membership changes, beginning outside the set.
-/

namespace QueryCompiler.Text

/-- A set of characters, as the code points at which membership changes. -/
structure CharacterSet where
  changes : List Nat

/-- A code point is in the set when an odd number of changes lie at or below
it. -/
def CharacterSet.contains (set : CharacterSet) (character : Char) : Bool :=
  (set.changes.takeWhile fun change => change ≤ character.toNat).length % 2 == 1

end QueryCompiler.Text
