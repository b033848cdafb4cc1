import Mathlib.Data.List.DropRight
import QueryCompiler.Predicate.Holds

/-!
# What a field reads

The field of a comparison is cut at its dots into names, without the dollar signs at its ends,
and the names are followed from the record through nested objects.  `Json.Reads` says by itself
what is found there: the value at the end of the names, and null if they lead nowhere.
-/

namespace QueryCompiler

/-! ## Pieces and ends of a text -/

namespace Text

private theorem pieces_eq_splitOn (separator : Char) (text : List Char) :
    pieces separator text = text.splitOn separator := by
  induction text with
  | nil => rfl
  | cons character rest inductionHypothesis =>
      rw [List.splitOn] at inductionHypothesis ⊢
      rw [List.splitOnP_cons_eq_if_modifyHead, pieces, inductionHypothesis]
      by_cases same : character = separator
      · simp [same]
      · -- The character goes in front of the first piece, and there always is one.
        cases shape : rest.splitOnP (· == separator) with
        | nil => exact absurd shape (List.splitOnP_ne_nil _ rest)
        | cons first others => simp [same]

private theorem pieces_intercalate {separator : Char} {names : List (List Char)}
    (named : names ≠ [])
    (free : ∀ name ∈ names, separator ∉ name) :
    pieces separator ([separator].intercalate names) = names := by
  rw [pieces_eq_splitOn]
  exact List.splitOn_intercalate separator free named

private theorem pieces_of_not_mem {separator : Char} {text : List Char} (free : separator ∉ text) :
    pieces separator text = [text] := by
  rw [pieces_eq_splitOn]
  exact List.splitOn_eq_singleton free

variable {test : Char → Bool} {text : List Char}

private theorem trimBoth_of_first (first : ∀ character ∈ text.head?, test character = false) :
    trimBoth test text = text.rdropWhile test := by
  cases text with
  | nil => rfl
  | cons character rest =>
      have kept := first character rfl
      rw [trimBoth, List.dropWhile_cons_of_neg (ne_true_of_eq_false kept)]
      rfl

private theorem rdropWhile_eq_self (last : ∀ character ∈ text.getLast?, test character = false) :
    text.rdropWhile test = text := by
  rw [List.rdropWhile_eq_self_iff]
  intro present
  exact ne_true_of_eq_false (last _ (List.getLast?_eq_some_getLast present))

/-- Between two characters that are trimmed away, a text that begins and ends with none of
them is left. -/
theorem trimBoth_between {opening closing : Char} (opens : test opening = true)
    (closes : test closing = true) (first : ∀ character ∈ text.head?, test character = false)
    (last : ∀ character ∈ text.getLast?, test character = false) :
    trimBoth test (opening :: (text ++ [closing])) = text := by
  have trimmed : trimBoth test (text ++ [closing]) = text := by
    cases text with
    | nil => simp [trimBoth, closes]
    | cons character rest =>
        have begun : trimBoth test (character :: rest ++ [closing]) =
            (character :: rest ++ [closing]).rdropWhile test := trimBoth_of_first first
        rw [begun, List.rdropWhile_concat_pos _ _ _ closes]
        exact rdropWhile_eq_self last
  rw [trimBoth, List.dropWhile_cons_of_pos opens]
  exact trimmed

end Text

/-! ## Names of a field -/

private theorem beq_dollar_eq_false {ending : Option Char} (other : ending ≠ some '$') :
    ∀ character ∈ ending, (character == '$') = false := by
  intro character isEnding
  rw [beq_eq_false_iff_ne]
  rintro rfl
  exact other isEnding

/-- A field without the dollar signs at its end. -/
def withoutDollarsBehind (field : String) : String :=
  .ofList (field.toList.rdropWhile (· == '$'))

theorem withoutDollarsBehind_eq_self {field : String}
    (last : field.toList.getLast? ≠ some '$') : withoutDollarsBehind field = field := by
  have kept : field.toList.rdropWhile (· == '$') = field.toList :=
    Text.rdropWhile_eq_self (beq_dollar_eq_false last)
  rw [withoutDollarsBehind, kept, String.ofList_toList]

theorem withoutDollarsBehind_ne_self {field : String}
    (last : field.toList.getLast? = some '$') : withoutDollarsBehind field ≠ field := by
  intro same
  have kept : field.toList.rdropWhile (· == '$') = field.toList := by
    rw [← String.toList_ofList (l := field.toList.rdropWhile (· == '$'))]
    exact congrArg String.toList same
  obtain ⟨initial, ends⟩ := List.getLast?_eq_some_iff.mp last
  rw [List.rdropWhile_eq_self_iff] at kept
  have present : field.toList ≠ [] := by simp [ends]
  exact kept present (by simp [ends])

/-- A field that begins with another character than a dollar sign loses those behind it. -/
theorem fieldPath_of_undotted {field : String} (undotted : '.' ∉ field.toList)
    (first : field.toList.head? ≠ some '$') : fieldPath field = [withoutDollarsBehind field] := by
  have trimmed : Text.trimBoth (· == '$') field.toList = field.toList.rdropWhile (· == '$') :=
    Text.trimBoth_of_first (beq_dollar_eq_false first)
  have free : '.' ∉ field.toList.rdropWhile (· == '$') := by
    intro member
    exact undotted ((List.rdropWhile_prefix (· == '$') field.toList).subset member)
  rw [fieldPath, trimmed, Text.pieces_of_not_mem free]
  rfl

/-- A field that is a path between dollar signs: names joined by dots, with no dollar sign in
front of the first name nor behind the last one. -/
structure Encloses (field : String) (names : List String) : Prop where
  enclosed : field = "$" ++ ".".intercalate names ++ "$"
  named : names ≠ []
  undotted : ∀ name ∈ names, '.' ∉ name.toList
  first : (".".intercalate names).toList.head? ≠ some '$'
  last : (".".intercalate names).toList.getLast? ≠ some '$'

theorem Encloses.fieldPath_eq {field : String} {names : List String}
    (encloses : Encloses field names) : fieldPath field = names := by
  obtain ⟨rfl, named, undotted, first, last⟩ := encloses
  have characters : ("$" ++ ".".intercalate names ++ "$").toList =
      '$' :: ((".".intercalate names).toList ++ ['$']) := by
    simp [String.toList_append]
  have trimmed : Text.trimBoth (· == '$') ('$' :: ((".".intercalate names).toList ++ ['$'])) =
      (".".intercalate names).toList :=
    Text.trimBoth_between rfl rfl (beq_dollar_eq_false first) (beq_dollar_eq_false last)
  have cut : Text.pieces '.' (".".intercalate names).toList = names.map String.toList := by
    rw [String.toList_intercalate]
    apply Text.pieces_intercalate
    · simpa using named
    · simpa using undotted
  rw [fieldPath, characters, trimmed, cut, List.map_map]
  simp [Function.comp_def]

/-! ## Following names -/

/-- Names lead from a value to another one, from an object to its member at each step. -/
inductive Json.Leads : Json → List String → Json → Prop
  | here (value : Json) : Leads value [] value
  | step {members : Members} {name : String} {names : List String} {inner value : Json}
      (found : members.lookup name = some inner) (further : Leads inner names value) :
      Leads (.object members) (name :: names) value

/-- What is read where names lead: null if they lead nowhere, because a step is missing or is
taken from a value that is no object. -/
inductive Json.Reads (start : Json) (names : List String) : Json → Prop
  | found {value : Json} (leads : start.Leads names value) : Reads start names value
  | missing (nowhere : ∀ value, ¬ start.Leads names value) : Reads start names .null

private theorem walkPath_cons (start : Json) (name : String) (names : List String) :
    walkPath start (name :: names) =
      (start.member? name).bind fun inner => walkPath inner names := rfl

theorem walkPath_eq_some_iff {start value : Json} {names : List String} :
    walkPath start names = some value ↔ start.Leads names value := by
  induction names generalizing start with
  | nil =>
      constructor
      · intro reached
        cases reached
        exact .here value
      · intro leads
        cases leads
        rfl
  | cons name names inductionHypothesis =>
      rw [walkPath_cons, Option.bind_eq_some_iff]
      constructor
      · rintro ⟨inner, found, further⟩
        cases start with
        | object members => exact .step found (inductionHypothesis.mp further)
        | _ => cases found
      · intro leads
        cases leads with
        | step found further => exact ⟨_, found, inductionHypothesis.mpr further⟩

/-- A field reads what its names lead to, and nothing else. -/
theorem Record.field_eq_iff {record : Record} {field : String} {value : Json} :
    record.field field = value ↔ (Json.object record).Reads (fieldPath field) value := by
  unfold Record.field
  constructor
  · rintro rfl
    cases reached : walkPath (.object record) (fieldPath field) with
    | some value => exact .found (walkPath_eq_some_iff.mp reached)
    | none =>
        apply Json.Reads.missing
        intro value leads
        rw [walkPath_eq_some_iff.mpr leads] at reached
        cases reached
  · intro reads
    cases reads with
    | found leads => rw [walkPath_eq_some_iff.mpr leads, Option.getD_some]
    | missing nowhere =>
        cases reached : walkPath (.object record) (fieldPath field) with
        | none => rfl
        | some value => exact absurd (walkPath_eq_some_iff.mp reached) (nowhere value)

/-- The member of a record under a name, and null if it has none. -/
def Record.member (record : Record) (name : String) : Json :=
  (record.lookup name).getD .null

theorem Record.field_of_fieldPath_eq_singleton {field name : String}
    (alone : fieldPath field = [name]) (record : Record) :
    record.field field = record.member name := by
  have found : (Json.object record).member? name = record.lookup name := rfl
  rw [Record.field, Record.member, alone, walkPath_cons, found]
  cases record.lookup name with
  | none => rfl
  | some value => rfl

end QueryCompiler
