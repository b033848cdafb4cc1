/-!
# Wildcard patterns

In a pattern `%` stands for any text and `_` for any one character; every other
character stands for itself.  A pattern has to cover the whole text.
-/

namespace QueryCompiler.Text

/-- Whether a test holds of the text or of one of its suffixes. -/
def anySuffix (test : List Char → Bool) : List Char → Bool
  | [] => test []
  | character :: rest => test (character :: rest) || anySuffix test rest

/-- A test holds of some suffix as the text can be cut before one. -/
theorem anySuffix_iff {test : List Char → Bool} {text : List Char} :
    anySuffix test text = true ↔ ∃ initial rest, text = initial ++ rest ∧ test rest = true := by
  induction text with
  | nil =>
      constructor
      · exact fun holds => ⟨[], [], rfl, holds⟩
      · rintro ⟨initial, rest, equality, holds⟩
        rw [(List.append_eq_nil_iff.mp equality.symm).2] at holds
        exact holds
  | cons character text inductionHypothesis =>
      rw [anySuffix, Bool.or_eq_true, inductionHypothesis]
      constructor
      · rintro (holds | ⟨initial, rest, rfl, holds⟩)
        · exact ⟨[], _, rfl, holds⟩
        · exact ⟨character :: initial, rest, rfl, holds⟩
      · rintro ⟨initial, rest, equality, holds⟩
        cases initial with
        | nil => exact .inl (by rw [equality]; exact holds)
        | cons first initial =>
            injection equality with _ equality
            exact .inr ⟨initial, rest, equality, holds⟩

/-- Whether a pattern covers a text. -/
def wildcardMatches : (pattern text : List Char) → Bool
  | [], text => text.isEmpty
  | '%' :: pattern, text => anySuffix (wildcardMatches pattern) text
  | '_' :: pattern, text =>
      match text with
      | [] => false
      | _ :: rest => wildcardMatches pattern rest
  | expected :: pattern, text =>
      match text with
      | [] => false
      | character :: rest => character == expected && wildcardMatches pattern rest

end QueryCompiler.Text
