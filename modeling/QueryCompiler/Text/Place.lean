import QueryCompiler.Text.Pieces

/-!
# Places in a text

A place is a line and a column, both counted from one.  `pointAt` shows a place
below its line, between margins as wide as the number of the line.
-/

namespace QueryCompiler.Text

structure Place where
  line : Nat
  column : Nat
  deriving DecidableEq, Repr

/-- The place behind a text that begins at a given place. -/
def Place.after (place : Place) (text : List Char) : Place :=
  text.foldl (fun place character =>
    if character = '\n' then ⟨place.line + 1, 1⟩ else ⟨place.line, place.column + 1⟩) place

def placeAt (text : List Char) (offset : Nat) : Place :=
  Place.after ⟨1, 1⟩ (text.take offset)

/-- A line of a text, without the characters that end it. -/
def lineAt (text : List Char) (line : Nat) : List Char :=
  ((pieces '\n' text).getD (line - 1) []).filter (· != '\r')

/-- Blanks of the width of a text; tabs stay tabs. -/
def blankOut (text : List Char) : List Char :=
  text.map fun character => if character = '\t' then '\t' else ' '

/-- Show the place behind so many characters of a text, and tell what was
expected there. -/
def pointAt (text : List Char) (offset : Nat) (expected : String) : String :=
  let place := placeAt text offset
  let number := toString place.line
  let margin := "".pushn ' ' number.length
  let line := lineAt text place.line
  "\n".intercalate [
    margin ++ "--> " ++ number ++ ":" ++ toString place.column,
    margin ++ " |",
    number ++ " | " ++ String.ofList line,
    margin ++ " | " ++ String.ofList (blankOut (line.take (place.column - 1))) ++ "^---",
    margin ++ " |",
    margin ++ " = expected " ++ expected]

end QueryCompiler.Text
