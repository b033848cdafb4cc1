import QueryCompiler.Proofs.Predicate.Wildcard

/-!
# Patterns without regard to case

Text and pattern are compared in lower case, each brought into it on its own.  Two characters
stand in the way: the capital I with a dot becomes two characters, so that `_` does not stand
for it any more, and the form of a capital sigma depends on its neighbours, which are others in
the text than in the pattern.  Wherever a cut of the text meets neither of them, the lower-case
text can be cut along the lower-case pattern as well.
-/

namespace QueryCompiler.Text

/-! ## Lower case of single characters -/

/-- The lower-case form of a character in a text, where the first text holds the characters
before it, nearest first. -/
def lowerCharacterIn (before : List Char) (character : Char) (after : List Char) : List Char :=
  if character = 'Σ' then [lowerSigma before after] else lowerCharacter character

private theorem lowerCaseFrom_cons (before : List Char) (character : Char) (after : List Char) :
    lowerCaseFrom before (character :: after) =
      lowerCharacterIn before character after ++ lowerCaseFrom (character :: before) after :=
  rfl

/-- Of all characters only the capital I with a dot has a lower-case form of more than one. -/
theorem exists_lowerCharacterIn_eq_singleton {character : Char} (noDot : character ≠ 'İ')
    (before after : List Char) :
    ∃ lower, lowerCharacterIn before character after = [lower] := by
  unfold lowerCharacterIn lowerCharacter
  split
  · exact ⟨_, rfl⟩
  split
  · exact ⟨_, rfl⟩
  split
  · exact ⟨_, rfl⟩
  · exact ⟨_, rfl⟩

private theorem lowerCharacterIn_percent (before after : List Char) :
    lowerCharacterIn before '%' after = ['%'] := by
  rfl

private theorem lowerCharacterIn_underscore (before after : List Char) :
    lowerCharacterIn before '_' after = ['_'] := by
  rfl

private theorem lowerCharacterIn_congr {character : Char}
    {before after otherBefore otherAfter : List Char}
    (sameSigma : character = 'Σ' →
      lowerSigma before after = lowerSigma otherBefore otherAfter) :
    lowerCharacterIn before character after =
      lowerCharacterIn otherBefore character otherAfter := by
  unfold lowerCharacterIn
  split
  case isTrue sigma => rw [sameSigma sigma]
  case isFalse => rfl

private theorem exists_lowerCaseFrom_append (before piece rest : List Char) :
    ∃ lower, lowerCaseFrom before (piece ++ rest) =
      lower ++ lowerCaseFrom (piece.reverse ++ before) rest := by
  induction piece generalizing before with
  | nil => exact ⟨[], rfl⟩
  | cons character piece inductionHypothesis =>
      obtain ⟨lower, equality⟩ := inductionHypothesis (character :: before)
      refine ⟨lowerCharacterIn before character (piece ++ rest) ++ lower, ?_⟩
      rw [List.cons_append, lowerCaseFrom_cons, equality, List.append_assoc, List.reverse_cons,
        List.append_assoc, List.singleton_append]

/-! ## Cuts that lower case keeps -/

/-- A cut of a text along a pattern that lower case keeps: no `_` stands for the capital I with
a dot, and every capital sigma of the pattern has the form of the one it stands for.  The
characters before the pattern and before the text are given nearest first. -/
def KeepsCase (patternBefore : List Char) :
    List Char → (textBefore : List Char) → List (List Char) → Prop
  | symbol :: pattern, textBefore, piece :: pieces =>
      (symbol = '_' → piece ≠ ['İ']) ∧
        (symbol = 'Σ' →
          lowerSigma patternBefore pattern = lowerSigma textBefore pieces.flatten) ∧
        KeepsCase (symbol :: patternBefore) pattern (piece.reverse ++ textBefore) pieces
  | [], _, _ => True
  | _ :: _, _, [] => True

instance KeepsCase.decidable :
    ∀ (patternBefore pattern textBefore : List Char) (pieces : List (List Char)),
      Decidable (KeepsCase patternBefore pattern textBefore pieces)
  | patternBefore, symbol :: pattern, textBefore, piece :: pieces =>
      have := decidable (symbol :: patternBefore) pattern (piece.reverse ++ textBefore) pieces
      inferInstanceAs (Decidable (_ ∧ _ ∧ _))
  | _, [], _, _ => .isTrue trivial
  | _, _ :: _, _, [] => .isTrue trivial

private theorem wildcardMatches_append_same (same : List Char) {pattern text : List Char}
    (covered : wildcardMatches pattern text = true) :
    wildcardMatches (same ++ pattern) (same ++ text) = true := by
  induction same with
  | nil => exact covered
  | cons character same inductionHypothesis =>
      rw [List.cons_append, List.cons_append, wildcardMatches_cons_iff]
      refine ⟨[character], same ++ text, rfl, ?_, inductionHypothesis⟩
      by_cases percent : character = '%'
      · exact percent ▸ .anyText _
      by_cases underscore : character = '_'
      · exact underscore ▸ .anyCharacter _
      · exact .itself percent underscore

/-- The lower-case text can be cut where the text can, if lower case keeps the cut. -/
theorem wildcardMatches_lowerCaseFrom {pattern : List Char} {pieces : List (List Char)}
    (each : List.Forall₂ StandsFor pattern pieces) {patternBefore textBefore : List Char}
    (keeps : KeepsCase patternBefore pattern textBefore pieces) :
    wildcardMatches (lowerCaseFrom patternBefore pattern)
      (lowerCaseFrom textBefore pieces.flatten) = true := by
  induction each generalizing patternBefore textBefore with
  | nil => rfl
  | @cons symbol piece pattern pieces stands _ inductionHypothesis =>
      obtain ⟨noDot, sameSigma, keepsRest⟩ := keeps
      have covered := inductionHypothesis keepsRest
      rw [List.flatten_cons, lowerCaseFrom_cons]
      cases stands with
      | anyText =>
          obtain ⟨lower, equality⟩ := exists_lowerCaseFrom_append textBefore piece pieces.flatten
          rw [lowerCharacterIn_percent, equality, List.singleton_append, wildcardMatches_cons_iff]
          exact ⟨lower, _, rfl, .anyText lower, covered⟩
      | anyCharacter character =>
          have different : character ≠ 'İ' := fun dotted => noDot rfl (by rw [dotted])
          obtain ⟨lower, equality⟩ :=
            exists_lowerCharacterIn_eq_singleton different textBefore pieces.flatten
          rw [lowerCharacterIn_underscore, List.singleton_append, List.singleton_append,
            lowerCaseFrom_cons, equality, wildcardMatches_cons_iff]
          exact ⟨[lower], _, rfl, .anyCharacter lower, covered⟩
      | itself =>
          rw [List.singleton_append, lowerCaseFrom_cons, lowerCharacterIn_congr sameSigma]
          exact wildcardMatches_append_same _ covered

private theorem keepsCase_of_not_mem {pattern : List Char} {pieces : List (List Char)}
    (each : List.Forall₂ StandsFor pattern pieces) (noSigma : 'Σ' ∉ pattern)
    (noDot : 'İ' ∉ pieces.flatten ∨ '_' ∉ pattern) (patternBefore textBefore : List Char) :
    KeepsCase patternBefore pattern textBefore pieces := by
  induction each generalizing patternBefore textBefore with
  | nil => exact trivial
  | @cons symbol piece pattern pieces stands _ inductionHypothesis =>
      rw [List.mem_cons, not_or] at noSigma
      refine ⟨?_, fun sigma => absurd sigma.symm noSigma.1, ?_⟩
      · rintro rfl rfl
        simp at noDot
      · apply inductionHypothesis noSigma.2
        rcases noDot with noDot | noUnderscore
        · exact .inl fun member => noDot (List.mem_append_right _ member)
        · exact .inr (List.not_mem_of_not_mem_cons noUnderscore)

end QueryCompiler.Text

namespace QueryCompiler

open Text

private theorem iLike_of_keepsCase {text pattern : String} {pieces : List (List Char)}
    (cut : Cut pattern.toList text.toList pieces)
    (keeps : KeepsCase [] pattern.toList [] pieces) :
    Comparison.iLike.holds (.string text) (.string pattern) = true := by
  have covered := wildcardMatches_lowerCaseFrom cut.each keeps
  rw [cut.whole] at covered
  exact covered

/-- A text that is like a pattern is so without regard to case as well, or lower case keeps no
cut of the text along the pattern.  In that case the pattern has a capital sigma, or it has
a `_` and the text a capital I with a dot. -/
theorem iLike_or_case_lost {text pattern : String}
    (matched : Comparison.like.holds (.string text) (.string pattern) = true) :
    Comparison.iLike.holds (.string text) (.string pattern) = true ∨
      (∀ pieces, Cut pattern.toList text.toList pieces →
        ¬ KeepsCase [] pattern.toList [] pieces) ∧
      ('Σ' ∈ pattern.toList ∨ 'İ' ∈ text.toList ∧ '_' ∈ pattern.toList) := by
  by_cases kept : ∃ pieces, Cut pattern.toList text.toList pieces ∧
      KeepsCase [] pattern.toList [] pieces
  · obtain ⟨pieces, cut, keeps⟩ := kept
    exact .inl (iLike_of_keepsCase cut keeps)
  · refine .inr ⟨fun pieces cut keeps => kept ⟨pieces, cut, keeps⟩, ?_⟩
    obtain ⟨pieces, cut⟩ : ∃ pieces, Cut pattern.toList text.toList pieces :=
      wildcardMatches_iff.mp matched
    by_contra absent
    rw [not_or, not_and_or] at absent
    have noDot := absent.2
    rw [← cut.whole] at noDot
    exact kept ⟨pieces, cut, keepsCase_of_not_mem cut.each absent.1 noDot [] []⟩

/-- A final sigma in front of a space, and a capital I with a dot that `%` stands for. -/
theorem iLike_of_like_behind_space :
    let text := "ΑΣ İx"
    let pattern := "ΑΣ %_"
    Comparison.like.holds (.string text) (.string pattern) = true ∧
      Comparison.iLike.holds (.string text) (.string pattern) = true := by
  intro text pattern
  have matched : Comparison.like.holds (.string text) (.string pattern) = true := by decide
  let pieces : List (List Char) := [['Α'], ['Σ'], [' '], ['İ'], ['x']]
  have itself : ∀ symbol ∈ ['Α', 'Σ', ' '], StandsFor symbol [symbol] := by
    intro symbol member
    apply StandsFor.itself
    · rintro rfl
      simp at member
    · rintro rfl
      simp at member
  have each : List.Forall₂ StandsFor ['Α', 'Σ', ' ', '%', '_'] pieces :=
    .cons (itself _ (by decide)) <| .cons (itself _ (by decide)) <|
      .cons (itself _ (by decide)) <| .cons (.anyText _) <| .cons (.anyCharacter _) .nil
  have spelled : pattern.toList = ['Α', 'Σ', ' ', '%', '_'] := by decide
  have cut : Cut pattern.toList text.toList pieces := ⟨spelled ▸ each, by decide⟩
  have keeps : KeepsCase [] pattern.toList [] pieces := by decide +kernel
  rcases iLike_or_case_lost matched with covered | ⟨lost, _⟩
  · exact ⟨matched, covered⟩
  · exact absurd keeps (lost pieces cut)

/-- The sigma ends the pattern's word but not the text's, and the small form of the capital
I with a dot is one character too long for `_`. -/
theorem not_iLike_of_like :
    Comparison.like.holds (.string "ΑΣΑ") (.string "ΑΣ%") = true ∧
      Comparison.iLike.holds (.string "ΑΣΑ") (.string "ΑΣ%") = false ∧
      Comparison.like.holds (.string "İ") (.string "_") = true ∧
      Comparison.iLike.holds (.string "İ") (.string "_") = false := by
  decide +kernel

end QueryCompiler
