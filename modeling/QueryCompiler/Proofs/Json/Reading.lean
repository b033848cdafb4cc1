import QueryCompiler.Json.Decode
import QueryCompiler.Proofs.Json.Nesting
import QueryCompiler.Proofs.Json.Scalar
import QueryCompiler.Proofs.Json.Text

/-!
# Texts are read back as they were written

The compact text of a value whose numbers are integers is read as the draft of that
value, up to the limit of nesting (`readDocument_compact`).  So two such values with
one text are the same value (`eq_of_compact_eq`).
-/

namespace QueryCompiler.Json

/-! ## Integers -/

/-- Every number in the value is an integer of 64 bits. -/
inductive Integral : Json → Prop
  | null : Integral .null
  | bool (value : Bool) : Integral (.bool value)
  | natural (value : UInt64) : Integral (.number (.natural value))
  | negative (below : Fin (Nat.pow 2 63)) : Integral (.number (.negative below))
  | string (value : String) : Integral (.string value)
  | array {items : List Json} (each : ∀ item ∈ items, Integral item) : Integral (.array items)
  | object {members : Members} (each : ∀ member ∈ members, Integral member.2) :
      Integral (.object members)

/-! ## Beginnings of values -/

/-- A character that begins a value. -/
def BeginsValue (first : Char) : Prop :=
  first ∈ ['n', 't', 'f', '"', '[', '{', '-'] ∨ first.isDigit = true

private theorem BeginsValue.ne_of_not {first other : Char} (begins : BeginsValue first)
    (never : other ∉ ['n', 't', 'f', '"', '[', '{', '-'] ∧ other.isDigit = false) :
    first ≠ other := by
  rintro rfl
  rcases begins with listed | digit
  · exact never.1 listed
  · rw [never.2] at digit
    cases digit

private theorem BeginsValue.skipBlanks {first : Char} (begins : BeginsValue first)
    (text : List Char) :
    skipBlanks (first :: text) = first :: text := by
  have notBlank : first ≠ ' ' := begins.ne_of_not (by decide)
  have notTab : first ≠ '\t' := begins.ne_of_not (by decide)
  have notFeed : first ≠ '\n' := begins.ne_of_not (by decide)
  have notReturn : first ≠ '\r' := begins.ne_of_not (by decide)
  simp [Json.skipBlanks, notBlank, notTab, notFeed, notReturn]

private theorem toDigits_eq_cons (value : Nat) :
    ∃ first others, Nat.toDigits 10 value = first :: others ∧ first.isDigit = true := by
  cases digits : Nat.toDigits 10 value with
  | nil => exact absurd digits Nat.toDigits_ne_nil
  | cons first others =>
      have member : first ∈ Nat.toDigits 10 value := by
        rw [digits]
        exact List.mem_cons_self
      exact ⟨first, others, rfl, Nat.isDigit_of_mem_toDigits (by decide) (by decide) member⟩

private theorem Integral.begins {value : Json} (integral : value.Integral) (rest : List Char) :
    ∃ first text, write value rest = first :: text ∧ BeginsValue first := by
  cases integral with
  | null => exact ⟨_, _, rfl, by simp [BeginsValue]⟩
  | bool value => cases value <;> exact ⟨_, _, rfl, by simp [BeginsValue]⟩
  | natural value =>
      obtain ⟨first, others, digits, isDigit⟩ := toDigits_eq_cons value.toNat
      exact ⟨first, others ++ rest, by rw [write, Number.text, digits]; rfl, Or.inr isDigit⟩
  | negative below => exact ⟨_, _, rfl, by simp [BeginsValue]⟩
  | string value => exact ⟨_, _, rfl, by simp [BeginsValue]⟩
  | @array items each => cases items <;> exact ⟨_, _, rfl, by simp [BeginsValue]⟩
  | @object members each => cases members <;> exact ⟨_, _, rfl, by simp [BeginsValue]⟩

private theorem Integral.length_lt {value : Json} (integral : value.Integral) (rest : List Char) :
    rest.length < (write value rest).length := by
  obtain ⟨first, text, shape, _⟩ := integral.begins []
  have parts := write_append value [] rest
  rw [List.nil_append, shape] at parts
  rw [parts]
  simp only [List.length_append, List.length_cons]
  omega

/-! ## Values without items or members -/

/-- A value that is read from the front of every text that begins with what was written
for it.  Three steps are enough for each character. -/
def ReadBack (value : Json) : Prop :=
  ∀ (fuel limit : Nat) (rest : List Char), EndsValue rest →
    3 * (write value rest).length < fuel →
      readValue fuel limit (write value rest) = (Draft.limited limit value, some rest)

private theorem readValue_scalar {fuel limit : Nat} {first : Char} {text : List Char}
    (enough : 0 < fuel) (begins : BeginsValue first) (noList : first ≠ '[')
    (noObject : first ≠ '{') :
    readValue fuel limit (first :: text) = readScalar (first :: text) := by
  obtain ⟨fuel, rfl⟩ : ∃ less, fuel = less + 1 := ⟨fuel - 1, by omega⟩
  rw [readValue, begins.skipBlanks]
  split
  · rename_i shape
    exact absurd (List.cons.inj shape).1 noList
  · rename_i shape
    exact absurd (List.cons.inj shape).1 noObject
  · rfl

private theorem readScalar_digit {first : Char} {text : List Char}
    (isDigit : first.isDigit = true) :
    readScalar (first :: text) = readNumber false (first :: text) := by
  have other : ∀ mark : Char, mark.isDigit = false → first ≠ mark := by
    rintro mark noDigit rfl
    rw [isDigit] at noDigit
    cases noDigit
  rw [readScalar, if_pos isDigit]
  · exact other '"' (by decide)
  · exact other 'n' (by decide)
  · exact other 't' (by decide)
  · exact other 'f' (by decide)
  · exact other '-' (by decide)

private theorem readBack_natural (value : UInt64) : ReadBack (.number (.natural value)) := by
  intro fuel limit rest ends enough
  obtain ⟨first, others, digits, isDigit⟩ := toDigits_eq_cons value.toNat
  have written : write (.number (.natural value)) rest = first :: (others ++ rest) := by
    rw [write, Number.text, digits]
    rfl
  have noMark : ∀ mark : Char, mark.isDigit = false → first ≠ mark := by
    rintro mark noDigit rfl
    rw [isDigit] at noDigit
    cases noDigit
  rw [written, readValue_scalar (by omega) (Or.inr isDigit) (noMark '[' (by decide))
    (noMark '{' (by decide)), readScalar_digit isDigit, ← List.cons_append, ← digits,
    readNumber_toDigits false value.toNat ends, integerLiteral?_natural]
  rfl

private theorem readBack_negative (below : Fin (Nat.pow 2 63)) :
    ReadBack (.number (.negative below)) := by
  intro fuel limit rest ends enough
  have scalar := @readValue_scalar fuel limit '-' (Nat.toDigits 10 (below + 1) ++ rest)
    (by omega) (by simp [BeginsValue]) (by decide) (by decide)
  have number := readNumber_toDigits true (below + 1) ends
  rw [integerLiteral?_negative] at number
  exact scalar.trans number

private theorem readBack_string (value : String) : ReadBack (.string value) := by
  intro fuel limit rest ends enough
  have scalar := @readValue_scalar fuel limit '"'
    (value.toList.flatMap escapeCharacter ++ '"' :: rest)
    (by omega) (by simp [BeginsValue]) (by decide) (by decide)
  refine scalar.trans ?_
  rw [readScalar, readText_escaped]
  simp [draftOfText, Draft.limited, Except.toOption]

private theorem readBack_null : ReadBack .null := by
  intro fuel limit rest ends enough
  exact readValue_scalar (by omega) (by simp [BeginsValue]) (by decide) (by decide)

private theorem readBack_bool (value : Bool) : ReadBack (.bool value) := by
  intro fuel limit rest ends enough
  cases value <;>
    exact readValue_scalar (by omega) (by simp [BeginsValue]) (by decide) (by decide)

/-! ## Lists and objects -/

private theorem endsValue_writeItems (items : List Json) (rest : List Char) :
    EndsValue (writeItems items (']' :: rest)) := by
  intro character head
  cases items <;> cases head <;> simp

private theorem endsValue_writeMembers (members : Members) (rest : List Char) :
    EndsValue (writeMembers members ('}' :: rest)) := by
  intro character head
  cases members <;> cases head <;> simp

private theorem skipBlanks_comma (text : List Char) : skipBlanks (',' :: text) = ',' :: text := rfl

/-- Items that are read back are read in their order up to the closing bracket. -/
theorem readMoreItems_write {item : Json} {items : List Json}
    (integral : ∀ value ∈ item :: items, value.Integral)
    (each : ∀ value ∈ item :: items, ReadBack value) (fuel limit : Nat) (rest : List Char)
    (enough : 3 * (write item (writeItems items (']' :: rest))).length + 1 < fuel) :
    readMoreItems fuel limit (write item (writeItems items (']' :: rest))) =
      (Draft.limitedItems limit (item :: items), .closed, some rest) := by
  induction items generalizing item fuel with
  | nil =>
      obtain ⟨fuel, rfl⟩ : ∃ less, fuel = less + 1 := ⟨fuel - 1, by omega⟩
      have first := each item List.mem_cons_self fuel limit _ (endsValue_writeItems [] rest)
        (by omega)
      rw [readMoreItems, first]
      rfl
  | cons next items inductionHypothesis =>
      obtain ⟨fuel, rfl⟩ : ∃ less, fuel = less + 1 := ⟨fuel - 1, by omega⟩
      obtain ⟨_, integralItems⟩ := List.forall_mem_cons.mp integral
      obtain ⟨firstBack, restBack⟩ := List.forall_mem_cons.mp each
      have first := firstBack fuel limit _ (endsValue_writeItems (next :: items) rest) (by omega)
      have shorter := (integral item List.mem_cons_self).length_lt
        (writeItems (next :: items) (']' :: rest))
      rw [writeItems, List.length_cons] at shorter
      have further := inductionHypothesis integralItems restBack fuel
        (by rw [writeItems] at enough; omega)
      obtain ⟨opening, text, shape, begins⟩ := (integralItems next List.mem_cons_self).begins
        (writeItems items (']' :: rest))
      have noEnd : opening ≠ ']' := begins.ne_of_not (by decide)
      rw [readMoreItems, first]
      rw [shape] at further
      simp only [writeItems, shape, skipBlanks_comma, begins.skipBlanks]
      split
      · rename_i same
        exact absurd (List.cons.inj same).1 noEnd
      · rw [further]
        rfl

private theorem skipBlanks_colon (text : List Char) : skipBlanks (':' :: text) = ':' :: text := rfl

private theorem skipBlanks_writeString (key : String) (rest : List Char) :
    skipBlanks (writeString key rest) = writeString key rest := rfl

private theorem length_lt_writeString (key : String) (rest : List Char) :
    rest.length < (writeString key rest).length := by
  simp only [writeString, List.length_cons, List.length_append]
  omega

/-- Members whose values are read back are read in their order up to the closing brace. -/
theorem readMoreMembers_write {key : String} {value : Json} {members : Members}
    (integral : ∀ member ∈ (key, value) :: members, member.2.Integral)
    (each : ∀ member ∈ (key, value) :: members, ReadBack member.2) (fuel limit : Nat)
    (rest : List Char)
    (enough : 3 * (writeString key
      (':' :: write value (writeMembers members ('}' :: rest)))).length + 1 < fuel) :
    readMoreMembers fuel limit
        (writeString key (':' :: write value (writeMembers members ('}' :: rest)))) =
      (Draft.limitedMembers limit ((key, value) :: members), .closed, some rest) := by
  induction members generalizing key value fuel with
  | nil =>
      obtain ⟨fuel, rfl⟩ : ∃ less, fuel = less + 1 := ⟨fuel - 1, by omega⟩
      have longer := length_lt_writeString key (':' :: write value (writeMembers [] ('}' :: rest)))
      rw [List.length_cons] at longer
      have valueBack : ReadBack value := each (key, value) List.mem_cons_self
      have first := valueBack fuel limit _ (endsValue_writeMembers [] rest) (by omega)
      rw [writeString, readMoreMembers, readText_escaped]
      simp only [skipBlanks_colon, first, Except.map, String.ofList_toList]
      rfl
  | cons next members inductionHypothesis =>
      obtain ⟨nextKey, nextValue⟩ := next
      obtain ⟨fuel, rfl⟩ : ∃ less, fuel = less + 1 := ⟨fuel - 1, by omega⟩
      have valueIntegral : value.Integral := integral (key, value) List.mem_cons_self
      have valueBack : ReadBack value := each (key, value) List.mem_cons_self
      have longer := length_lt_writeString key
        (':' :: write value (writeMembers ((nextKey, nextValue) :: members) ('}' :: rest)))
      have shorter := valueIntegral.length_lt
        (writeMembers ((nextKey, nextValue) :: members) ('}' :: rest))
      have ends := endsValue_writeMembers ((nextKey, nextValue) :: members) rest
      have first := valueBack fuel limit _ ends (by rw [List.length_cons] at longer; omega)
      rw [writeMembers] at enough longer shorter first
      rw [List.length_cons] at longer shorter
      have further := inductionHypothesis (List.forall_mem_cons.mp integral).2
        (List.forall_mem_cons.mp each).2 fuel (by omega)
      rw [writeMembers, writeString, readMoreMembers, readText_escaped]
      simp only [skipBlanks_colon, first, Except.map, String.ofList_toList, skipBlanks_comma,
        skipBlanks_writeString]
      have extended := congrArg (fun read =>
        ((.ok key, Draft.limited limit value) :: read.1, read.2.1, read.2.2)) further
      exact extended

private theorem readItems_write {item : Json} {items : List Json}
    (integral : ∀ value ∈ item :: items, value.Integral)
    (each : ∀ value ∈ item :: items, ReadBack value) (fuel limit : Nat) (rest : List Char)
    (enough : 3 * (write item (writeItems items (']' :: rest))).length + 2 < fuel) :
    readItems fuel limit (write item (writeItems items (']' :: rest))) =
      (Draft.limitedItems limit (item :: items), .closed, some rest) := by
  obtain ⟨fuel, rfl⟩ : ∃ less, fuel = less + 1 := ⟨fuel - 1, by omega⟩
  obtain ⟨opening, text, shape, begins⟩ := (integral item List.mem_cons_self).begins
    (writeItems items (']' :: rest))
  have noEnd : opening ≠ ']' := begins.ne_of_not (by decide)
  have listed := readMoreItems_write integral each fuel limit rest (by omega)
  rw [shape] at listed ⊢
  rw [readItems, begins.skipBlanks]
  split
  · rename_i empty
    cases empty
  · rename_i same
    exact absurd (List.cons.inj same).1 noEnd
  · exact listed

private theorem readMembers_write {key : String} {value : Json} {members : Members}
    (integral : ∀ member ∈ (key, value) :: members, member.2.Integral)
    (each : ∀ member ∈ (key, value) :: members, ReadBack member.2) (fuel limit : Nat)
    (rest : List Char)
    (enough : 3 * (writeString key
      (':' :: write value (writeMembers members ('}' :: rest)))).length + 2 < fuel) :
    readMembers fuel limit
        (writeString key (':' :: write value (writeMembers members ('}' :: rest)))) =
      (Draft.limitedMembers limit ((key, value) :: members), .closed, some rest) := by
  obtain ⟨fuel, rfl⟩ : ∃ less, fuel = less + 1 := ⟨fuel - 1, by omega⟩
  have listed := readMoreMembers_write integral each fuel limit rest (by omega)
  rw [readMembers, skipBlanks_writeString]
  exact listed

/-! ## Values and documents -/

private theorem readValue_list (fuel limit : Nat) (text : List Char) :
    readValue (fuel + 1) limit ('[' :: text) =
      let read := readItems fuel (limit - 1) text
      (limitDepth limit (.array read.1 read.2.1), read.2.2) := by
  rw [readValue]
  rfl

private theorem readValue_object (fuel limit : Nat) (text : List Char) :
    readValue (fuel + 1) limit ('{' :: text) =
      let read := readMembers fuel (limit - 1) text
      (limitDepth limit (.object read.1 read.2.1), read.2.2) := by
  rw [readValue]
  rfl

private theorem readBack_array {items : List Json} (integral : ∀ item ∈ items, item.Integral)
    (each : ∀ item ∈ items, ReadBack item) : ReadBack (.array items) := by
  intro fuel limit rest ends enough
  cases items with
  | nil =>
      rw [write, List.length_cons, List.length_cons] at enough
      obtain ⟨fuel, rfl⟩ : ∃ less, fuel = less + 2 := ⟨fuel - 2, by omega⟩
      have closed : readItems (fuel + 1) (limit - 1) (']' :: rest) =
          ([], .closed, some rest) := by
        rw [readItems]
        rfl
      rw [write, readValue_list, closed]
      rfl
  | cons item items =>
      rw [write, List.length_cons] at enough
      obtain ⟨fuel, rfl⟩ : ∃ less, fuel = less + 1 := ⟨fuel - 1, by omega⟩
      rw [write, readValue_list, readItems_write integral each fuel _ rest (by omega)]
      rfl

private theorem readBack_object {members : Members}
    (integral : ∀ member ∈ members, member.2.Integral)
    (each : ∀ member ∈ members, ReadBack member.2) : ReadBack (.object members) := by
  intro fuel limit rest ends enough
  cases members with
  | nil =>
      rw [write, List.length_cons, List.length_cons] at enough
      obtain ⟨fuel, rfl⟩ : ∃ less, fuel = less + 2 := ⟨fuel - 2, by omega⟩
      have closed : readMembers (fuel + 1) (limit - 1) ('}' :: rest) =
          ([], .closed, some rest) := by
        rw [readMembers]
        rfl
      rw [write, readValue_object, closed]
      rfl
  | cons member members =>
      obtain ⟨key, value⟩ := member
      rw [write, List.length_cons] at enough
      obtain ⟨fuel, rfl⟩ : ∃ less, fuel = less + 1 := ⟨fuel - 1, by omega⟩
      rw [write, readValue_object, readMembers_write integral each fuel _ rest (by omega)]
      rfl

/-- A value whose numbers are integers is read back wherever it was written. -/
theorem Integral.readBack {value : Json} (integral : value.Integral) : ReadBack value := by
  induction integral with
  | null => exact readBack_null
  | bool value => exact readBack_bool value
  | natural value => exact readBack_natural value
  | negative below => exact readBack_negative below
  | string value => exact readBack_string value
  | array each inductionHypothesis => exact readBack_array each inductionHypothesis
  | object each inductionHypothesis => exact readBack_object each inductionHypothesis

/-- The text of a value is read as a whole. -/
theorem readDocument_compact {value : Json} (integral : value.Integral) (limit : Nat) :
    readDocument limit value.compact = (Draft.limited limit value, some []) := by
  have read := integral.readBack (3 * (write value []).length + 3) limit [] endsValue_nil
    (by omega)
  rw [readDocument, compact, String.toList_ofList, String.length_ofList]
  exact read

/-- Decoding a text is decoding the draft of the value that was written. -/
theorem decodeTextWithin_compact {α : Type} {value : Json} (integral : value.Integral)
    (limit : Nat) (decode : Decoder α) :
    decodeTextWithin limit decode value.compact = decode (Draft.limited limit value) := by
  rw [decodeTextWithin]
  simp only [readDocument_compact integral]
  cases decode (Draft.limited limit value) <;> rfl

/-- What is read from a text holds no key twice. -/
theorem wellFormed_of_parse {text : String} {value : Json} (parsed : parse text = .ok value) :
    value.WellFormed := by
  rw [parse, decodeText, decodeTextWithin] at parsed
  obtain ⟨read, readOk, last⟩ := Outcome.bind_eq_ok.mp parsed
  split at last
  · cases last
    exact Draft.wellFormed_of_value readOk
  · cases last

theorem parse_compact {value : Json} (integral : value.Integral) (wellFormed : value.WellFormed)
    (shallow : value.depth ≤ nestingLimit) : parse value.compact = .ok value := by
  rw [parse, decodeText, decodeTextWithin_compact integral, Draft.limited_eq_ofJson shallow,
    Draft.value_ofJson wellFormed]

/-! ## Texts of values -/

/-- A text stands for one value. -/
theorem eq_of_compact_eq {value other : Json} (integral : value.Integral)
    (otherIntegral : other.Integral) (sameText : value.compact = other.compact) :
    value = other := by
  let limit := max value.depth other.depth
  have read := readDocument_compact integral limit
  rw [sameText, readDocument_compact otherIntegral limit,
    Draft.limited_eq_ofJson (Nat.le_max_left _ _),
    Draft.limited_eq_ofJson (Nat.le_max_right _ _)] at read
  have sameDraft := congrArg (fun reading => reading.1.read) read
  simp only [Draft.read_ofJson] at sameDraft
  cases sameDraft
  rfl

end QueryCompiler.Json
