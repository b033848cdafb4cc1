import Mathlib.Data.List.Forall2
import QueryCompiler.Predicate.Holds

/-!
# What a wildcard pattern covers

A pattern covers exactly the texts that can be cut into consecutive pieces, one for each
character of the pattern: any text for `%`, one character for `_`, and for every other
character that character itself.
-/

namespace QueryCompiler.Text

/-- What a character of a pattern stands for. -/
inductive StandsFor : Char → List Char → Prop
  | anyText (piece : List Char) : StandsFor '%' piece
  | anyCharacter (character : Char) : StandsFor '_' [character]
  | itself {character : Char} (noPercent : character ≠ '%') (noUnderscore : character ≠ '_') :
      StandsFor character [character]

/-- A cut of a text along a pattern, into one piece for each character of the pattern. -/
structure Cut (pattern text : List Char) (pieces : List (List Char)) : Prop where
  each : List.Forall₂ StandsFor pattern pieces
  whole : pieces.flatten = text

section

variable {symbol : Char} {pattern text : List Char}

theorem exists_cut_nil_iff : (∃ pieces, Cut [] text pieces) ↔ text = [] := by
  constructor
  · rintro ⟨pieces, each, whole⟩
    cases each
    exact whole.symm
  · rintro rfl
    exact ⟨[], .nil, rfl⟩

theorem exists_cut_cons_iff :
    (∃ pieces, Cut (symbol :: pattern) text pieces) ↔
      ∃ piece rest, text = piece ++ rest ∧ StandsFor symbol piece ∧
        ∃ pieces, Cut pattern rest pieces := by
  constructor
  · rintro ⟨pieces, each, whole⟩
    cases each with
    | cons first others => exact ⟨_, _, whole.symm, first, _, others, rfl⟩
  · rintro ⟨piece, rest, rfl, first, pieces, each, rfl⟩
    exact ⟨piece :: pieces, .cons first each, rfl⟩

/-! ## The matcher, one character of the pattern at a time -/

private theorem wildcardMatches_percent :
    wildcardMatches ('%' :: pattern) text = anySuffix (wildcardMatches pattern) text := by
  rw [wildcardMatches]

theorem wildcardMatches_underscore_iff :
    wildcardMatches ('_' :: pattern) text = true ↔
      ∃ character rest, text = character :: rest ∧ wildcardMatches pattern rest = true := by
  cases text with
  | nil => simp [wildcardMatches]
  | cons character rest => simp [wildcardMatches, and_assoc]

theorem wildcardMatches_literal_iff (noPercent : symbol ≠ '%') (noUnderscore : symbol ≠ '_') :
    wildcardMatches (symbol :: pattern) text = true ↔
      ∃ rest, text = symbol :: rest ∧ wildcardMatches pattern rest = true := by
  cases text with
  | nil => simp [wildcardMatches]
  | cons character rest => simp [wildcardMatches, and_assoc]

/-- A pattern covers a text as its first character stands for a piece in front and the other
characters cover the rest. -/
theorem wildcardMatches_cons_iff :
    wildcardMatches (symbol :: pattern) text = true ↔
      ∃ piece rest, text = piece ++ rest ∧ StandsFor symbol piece ∧
        wildcardMatches pattern rest = true := by
  by_cases percent : symbol = '%'
  · subst percent
    rw [wildcardMatches_percent, anySuffix_iff]
    constructor
    · rintro ⟨piece, rest, equality, covered⟩
      exact ⟨piece, rest, equality, .anyText piece, covered⟩
    · rintro ⟨piece, rest, equality, _, covered⟩
      exact ⟨piece, rest, equality, covered⟩
  by_cases underscore : symbol = '_'
  · subst underscore
    rw [wildcardMatches_underscore_iff]
    constructor
    · rintro ⟨character, rest, rfl, covered⟩
      exact ⟨[character], rest, rfl, .anyCharacter character, covered⟩
    · rintro ⟨piece, rest, rfl, stands, covered⟩
      cases stands with
      | anyCharacter character => exact ⟨character, rest, rfl, covered⟩
      | itself _ noUnderscore => exact absurd rfl noUnderscore
  · rw [wildcardMatches_literal_iff percent underscore]
    constructor
    · rintro ⟨rest, rfl, covered⟩
      exact ⟨[symbol], rest, rfl, .itself percent underscore, covered⟩
    · rintro ⟨piece, rest, rfl, stands, covered⟩
      cases stands with
      | anyText => exact absurd rfl percent
      | anyCharacter => exact absurd rfl underscore
      | itself => exact ⟨rest, rfl, covered⟩

theorem wildcardMatches_iff :
    wildcardMatches pattern text = true ↔ ∃ pieces, Cut pattern text pieces := by
  induction pattern generalizing text with
  | nil => rw [exists_cut_nil_iff, wildcardMatches, List.isEmpty_iff]
  | cons symbol pattern inductionHypothesis =>
      rw [wildcardMatches_cons_iff, exists_cut_cons_iff]
      simp only [inductionHypothesis]

end

end QueryCompiler.Text

namespace QueryCompiler

/-- A text is like a pattern exactly when it can be cut along the pattern. -/
theorem like_iff_exists_cut (text pattern : String) :
    Comparison.like.holds (.string text) (.string pattern) = true ↔
      ∃ pieces, Text.Cut pattern.toList text.toList pieces :=
  Text.wildcardMatches_iff

/-- `%` does not have to end at the first place where the pattern can go on. -/
example : Comparison.like.holds (.string "abcbc") (.string "a%_c") = true := by decide

end QueryCompiler
