import Mathlib.Data.List.DropRight
import Mathlib.Data.List.TakeDrop
import QueryCompiler.Sort.Token

/-!
# The language of sort tokens

The grammar of a token never goes back, and still it accepts what splitting accepts:
a token without the sigils at its ends, cut at every dot, must not have an empty piece.
The pieces are the names that the grammar reads.
-/

namespace QueryCompiler.SortToken

/-! ## Sigils at the end -/

private theorem dropWhile_eq_nil_iff_rdropWhile (text : List Char) :
    text.dropWhile isSigil = [] ↔ text.rdropWhile isSigil = [] := by
  rw [List.dropWhile_eq_nil_iff, List.rdropWhile_eq_nil_iff]

/-- A character in front stays unless nothing but sigils is left. -/
theorem rdropWhile_cons {character : Char} {text : List Char}
    (remains : (character :: text).dropWhile isSigil ≠ []) :
    (character :: text).rdropWhile isSigil = character :: text.rdropWhile isSigil := by
  rw [List.rdropWhile, List.rdropWhile, List.reverse_cons, List.dropWhile_append]
  by_cases onlySigils : text.reverse.dropWhile isSigil = []
  · have trail : text.dropWhile isSigil = [] := by
      rw [dropWhile_eq_nil_iff_rdropWhile, List.rdropWhile, onlySigils]
      rfl
    have noSigil : ¬ isSigil character = true := by
      intro sigil
      rw [List.dropWhile_cons, if_pos sigil] at remains
      exact remains trail
    simp [onlySigils, noSigil]
  · rw [if_neg (mt List.isEmpty_iff.mp onlySigils), List.reverse_append]
    rfl

/-- A dot is no sigil, so it stays where it is. -/
theorem rdropWhile_dot (text : List Char) :
    ('.' :: text).rdropWhile isSigil = '.' :: text.rdropWhile isSigil :=
  rdropWhile_cons (by simp [isSigil])

/-! ## Names -/

/-- The names of a text, by cutting it at every dot. -/
def namesOf (text : List Char) : List (List Char) :=
  Text.pieces '.' (text.rdropWhile isSigil)

private theorem namesOf_eq_singleton {text : List Char} (onlySigils : text.dropWhile isSigil = []) :
    namesOf text = [[]] := by
  rw [namesOf, (dropWhile_eq_nil_iff_rdropWhile text).mp onlySigils]
  rfl

private theorem namesOf_dot (text : List Char) : namesOf ('.' :: text) = [] :: namesOf text := by
  rw [namesOf, rdropWhile_dot, Text.pieces, if_pos rfl]
  rfl

/-- A character that is part of a name is put in front of the first piece. -/
theorem namesOf_cons {character : Char} {text : List Char}
    (inName : endsName (character :: text) = false) :
    ∃ first others, namesOf text = first :: others ∧
      namesOf (character :: text) = (character :: first) :: others := by
  rw [endsName, Bool.or_eq_false_iff] at inName
  obtain ⟨noDot, noTrail⟩ := inName
  have different : character ≠ '.' := by
    rintro rfl
    simp at noDot
  have kept := rdropWhile_cons (mt List.isEmpty_iff.mpr (ne_true_of_eq_false noTrail))
  cases shape : namesOf text with
  | nil => exact absurd shape (Text.pieces_ne_nil '.' _)
  | cons first others =>
      refine ⟨first, others, rfl, ?_⟩
      have cut : Text.pieces '.' (text.rdropWhile isSigil) = first :: others := shape
      rw [namesOf, kept, Text.pieces, if_neg different, cut]

/-- The first name ends before a dot, with the other names behind it, or before a run
of sigils that ends the text. -/
theorem namesOf_readName (text : List Char) :
    (∃ rest, (readName text).2 = '.' :: rest ∧
        namesOf text = (readName text).1 :: namesOf rest) ∨
      ((readName text).2.dropWhile isSigil = [] ∧ namesOf text = [(readName text).1]) := by
  induction text with
  | nil => exact Or.inr ⟨rfl, rfl⟩
  | cons character text inductionHypothesis =>
      rw [readName]
      by_cases ends : endsName (character :: text) = true
      · rw [if_pos ends]
        rw [endsName, Bool.or_eq_true] at ends
        rcases ends with dot | onlySigils
        · obtain rfl : character = '.' := by simpa using dot
          exact Or.inl ⟨text, rfl, namesOf_dot text⟩
        · have trail := List.isEmpty_iff.mp onlySigils
          exact Or.inr ⟨trail, namesOf_eq_singleton trail⟩
      · rw [if_neg ends]
        obtain ⟨first, others, shape, extended⟩ := namesOf_cons (eq_false_of_ne_true ends)
        rw [shape] at inductionHypothesis
        rcases inductionHypothesis with ⟨rest, stop, names⟩ | ⟨trail, names⟩
        · injection names with sameFirst sameOthers
          exact Or.inl ⟨rest, stop, by rw [extended, sameFirst, sameOthers]⟩
        · injection names with sameFirst sameOthers
          exact Or.inr ⟨trail, by rw [extended, sameFirst, sameOthers]⟩

/-- Behind a dot, only sigils are left when no name is empty, and then the names that
were read are all of them. -/
theorem readFurtherNames_dot (text : List Char) :
    ((readFurtherNames ('.' :: text)).2.dropWhile isSigil = [] ↔ [] ∉ namesOf text) ∧
      ([] ∉ namesOf text → (readFurtherNames ('.' :: text)).1 = namesOf text) := by
  -- By induction on the length: the names behind the first one stand in a shorter text.
  induction length : text.length using Nat.strongRecOn generalizing text with
  | ind _ inductionHypothesis =>
      subst length
      have notLonger := length_readName_le text
      rw [readFurtherNames]
      by_cases missing : (readName text).1 = []
      · have empty : [] ∈ namesOf text := by
          rcases namesOf_readName text with ⟨_, _, names⟩ | ⟨_, names⟩ <;>
            simp [names, missing]
        have dotLeft : ('.' :: text).dropWhile isSigil ≠ [] := by
          simp [isSigil]
        simp [missing, empty, dotLeft]
      · have present : ¬ (readName text).1.isEmpty = true := by
          rwa [List.isEmpty_iff]
        simp only [if_neg present]
        rcases namesOf_readName text with ⟨rest, stop, names⟩ | ⟨trail, names⟩
        · have shorter : rest.length < text.length := by
            rw [stop, List.length_cons] at notLonger
            omega
          obtain ⟨accepted, further⟩ := inductionHypothesis rest.length shorter rest rfl
          rw [stop, names, List.mem_cons, not_or, accepted]
          refine ⟨by simp [Ne.symm missing], fun nonempty => ?_⟩
          rw [further nonempty.2]
        · have unread : readFurtherNames (readName text).2 = ([], (readName text).2) := by
            cases left : (readName text).2 with
            | nil => rw [readFurtherNames]; simp
            | cons character rest =>
                have sigil : character ≠ '.' := by
                  rintro rfl
                  rw [left] at trail
                  simp [isSigil] at trail
                rw [readFurtherNames]
                simpa using sigil
          rw [unread, names]
          simp [trail, Ne.symm missing]

/-! ## Tokens -/

/-- A token without the blanks around it. -/
def trimmed (source : String) : List Char :=
  Text.trimBlank source.toList

/-- The names of a token, without the sigils at its ends. -/
def tokenNames (token : List Char) : List (List Char) :=
  Text.pieces '.' (Text.trimBoth isSigil token)

/-- The names of a token are read like those behind a dot. -/
theorem readToken_eq (token : List Char) :
    let further := readFurtherNames ('.' :: token.dropWhile isSigil)
    (further.2.dropWhile isSigil = [] →
        readToken token = .ok (token.takeWhile isSigil, further.1)) ∧
      (further.2.dropWhile isSigil ≠ [] → ∃ offset, readToken token = .error offset) := by
  rw [readToken, List.span_eq_takeWhile_dropWhile, readFurtherNames]
  cases name : readName (token.dropWhile isSigil) with
  | mk first rest =>
      cases first with
      | nil =>
          refine ⟨fun trail => ?_, fun _ =>
            ⟨(token.takeWhile isSigil).length, by simp only [name]⟩⟩
          simp [isSigil] at trail
      | cons character characters =>
          simp only [name, List.isEmpty_cons, Bool.false_eq_true, if_false]
          constructor
          · intro trail
            exact if_pos (List.isEmpty_iff.mpr trail)
          · intro remains
            exact ⟨_, if_neg (mt List.isEmpty_iff.mp remains)⟩

/-- A token is read when none of its names is empty. -/
theorem readToken_of_nonempty {token : List Char} (nonempty : [] ∉ tokenNames token) :
    readToken token = .ok (token.takeWhile isSigil, tokenNames token) := by
  obtain ⟨accepted, names⟩ := readFurtherNames_dot (token.dropWhile isSigil)
  have read := (readToken_eq token).1 (accepted.mpr nonempty)
  rw [read, names nonempty]
  rfl

private theorem readToken_of_empty {token : List Char} (empty : [] ∈ tokenNames token) :
    ∃ offset, readToken token = .error offset := by
  have accepted := (readFurtherNames_dot (token.dropWhile isSigil)).1
  exact (readToken_eq token).2 fun trail => accepted.mp trail empty

private theorem directionOf_takeWhile (token : List Char) :
    directionOf (token.takeWhile isSigil) = .descending ↔ token.head? = some '-' := by
  cases token with
  | nil => simp [directionOf]
  | cons character rest =>
      by_cases minus : character = '-'
      · subst minus
        simp [directionOf, isSigil]
      · have other : directionOf ((character :: rest).takeWhile isSigil) = .ascending := by
          rw [List.takeWhile_cons]
          split
          · simp [directionOf, minus]
          · rfl
        simp [other, minus]

/-! ## What a token asks for -/

/-- A token asks for the descending order by a minus in front, and for its second name,
of the relation that the first one names, or for its only name. -/
structure Describes (read : SortToken) (token : List Char) (names : List (List Char)) : Prop where
  direction : read.direction = .descending ↔ token.head? = some '-'
  relation : read.relation = (if 2 ≤ names.length then names[0]? else none).map String.ofList
  column : some read.column =
    (if 2 ≤ names.length then names[1]? else names[0]?).map String.ofList

private theorem Describes.unique {read other : SortToken} {token : List Char}
    {names : List (List Char)}
    (first : Describes read token names) (second : Describes other token names) :
    read = other := by
  have directions : read.direction = .descending ↔ other.direction = .descending :=
    first.direction.trans second.direction.symm
  have relations := first.relation.trans second.relation.symm
  have columns := first.column.trans second.column.symm
  cases read with
  | mk direction relation column =>
      cases other with
      | mk otherDirection otherRelation otherColumn =>
          simp only [Option.some.injEq] at relations columns
          cases direction <;> cases otherDirection <;> simp_all

private theorem parse_of_nonempty {source : String} (nonempty : [] ∉ tokenNames (trimmed source)) :
    ∃ read, parse source = .ok read ∧
      Describes read (trimmed source) (tokenNames (trimmed source)) := by
  have present : ¬ (trimmed source).isEmpty = true := by
    intro blank
    rw [List.isEmpty_iff.mp blank] at nonempty
    exact nonempty (List.mem_singleton.mpr rfl)
  have read := readToken_of_nonempty nonempty
  have direction := directionOf_takeWhile (trimmed source)
  unfold parse
  rw [trimmed] at present read
  simp only [if_neg present, read]
  rw [← trimmed]
  match names : tokenNames (trimmed source) with
  | [] => exact absurd names (Text.pieces_ne_nil '.' _)
  | [column] => exact ⟨_, rfl, direction, rfl, rfl⟩
  | relation :: column :: others => exact ⟨_, rfl, direction, by simp, by simp⟩

private theorem parse_of_empty {source : String} (present : trimmed source ≠ [])
    (empty : [] ∈ tokenNames (trimmed source)) :
    ∃ offset, parse source = .error (.missingName (trimmed source) offset) := by
  obtain ⟨offset, failed⟩ := readToken_of_empty empty
  refine ⟨offset, ?_⟩
  unfold parse
  rw [trimmed] at present failed ⊢
  simp only [if_neg (mt List.isEmpty_iff.mp present), failed]

private theorem parse_of_blank {source : String} (blank : trimmed source = []) :
    parse source = .error .empty := by
  rw [trimmed] at blank
  unfold parse
  simp only [if_pos (List.isEmpty_iff.mpr blank)]

/-- What is read from a token is what the token asks for. -/
theorem describes_of_parse {source : String} {read : SortToken} (parsed : parse source = .ok read) :
    Describes read (trimmed source) (tokenNames (trimmed source)) := by
  by_cases empty : [] ∈ tokenNames (trimmed source)
  · by_cases blank : trimmed source = []
    · rw [parse_of_blank blank] at parsed
      cases parsed
    · obtain ⟨offset, failed⟩ := parse_of_empty blank empty
      rw [failed] at parsed
      cases parsed
  · obtain ⟨other, succeeded, describes⟩ := parse_of_nonempty empty
    rw [succeeded] at parsed
    cases parsed
    exact describes

/-- A token is empty when its text is blank.  Any other token is read exactly when no
piece between its dots is empty, and its pieces say what it asks for; otherwise a name
is missing somewhere in it. -/
theorem parse_iff_pieces_nonempty (source : String) :
    (parse source = .error .empty ↔ trimmed source = []) ∧
      ((∃ offset, parse source = .error (.missingName (trimmed source) offset)) ↔
        trimmed source ≠ [] ∧ [] ∈ tokenNames (trimmed source)) ∧
      ((∃ read, parse source = .ok read) ↔
        trimmed source ≠ [] ∧ [] ∉ tokenNames (trimmed source)) ∧
      ∀ read, parse source = .ok read ↔
        [] ∉ tokenNames (trimmed source) ∧
          Describes read (trimmed source) (tokenNames (trimmed source)) := by
  by_cases blank : trimmed source = []
  · have failed : parse source = .error .empty := parse_of_blank blank
    have single : tokenNames [] = [[]] := rfl
    simp [failed, blank, single]
  · by_cases empty : [] ∈ tokenNames (trimmed source)
    · obtain ⟨offset, failed⟩ := parse_of_empty blank empty
      simp [failed, blank, empty]
    · obtain ⟨read, succeeded, describes⟩ := parse_of_nonempty empty
      refine ⟨by simp [succeeded, blank], by simp [succeeded, empty], ?_, fun other => ?_⟩
      · simp [succeeded, blank, empty]
      · constructor
        · intro otherRead
          rw [succeeded] at otherRead
          cases otherRead
          exact ⟨empty, describes⟩
        · rintro ⟨_, otherDescribes⟩
          rw [succeeded, describes.unique otherDescribes]

end QueryCompiler.SortToken
