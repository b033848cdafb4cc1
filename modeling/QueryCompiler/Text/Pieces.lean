/-!
# Pieces of a text

Cutting a text at every occurrence of a character.
-/

namespace QueryCompiler.Text

/-- The pieces of a text between the occurrences of a separator.  There is one
piece more than there are separators. -/
def pieces (separator : Char) : List Char → List (List Char)
  | [] => [[]]
  | character :: rest =>
      if character = separator then
        [] :: pieces separator rest
      else
        match pieces separator rest with
        | [] => [[character]]
        | first :: others => (character :: first) :: others

theorem pieces_ne_nil (separator : Char) (text : List Char) : pieces separator text ≠ [] := by
  induction text with
  | nil => simp [pieces]
  | cons character rest inductionHypothesis =>
      unfold pieces
      split
      · simp
      · split <;> simp

end QueryCompiler.Text
