import Mathlib.Data.List.TakeDrop
import QueryCompiler.Json.Printer
import QueryCompiler.Json.Reader

/-!
# Strings and integers are read back as they were written

An escaped character is read as the character, so a string ends at its own closing
mark.  An integer ends where no digit follows, and the digits of an integer of 64 bits
give its value again.
-/

namespace QueryCompiler.Json

/-! ## Strings -/

private theorem hexUnit?_control {character : Char} (control : character.toNat < 0x20) :
    hexUnit? '0' '0' (hexDigit (character.toNat / 16)) (hexDigit (character.toNat % 16)) =
      some character.toNat := by
  have table : ∀ code < 0x20,
      hexUnit? '0' '0' (hexDigit (code / 16)) (hexDigit (code % 16)) = some code := by decide
  exact table character.toNat control

private theorem readText_plain {character : Char} (noMark : character ≠ '"')
    (noBackslash : character ≠ '\\') (noControl : ¬ character.toNat < 0x20) (rest : List Char) :
    readText none (character :: rest) = (readText none rest).push character := by
  have other : ∀ {goal : Prop}, character = '\\' → goal := fun same => absurd same noBackslash
  rw [readText, if_neg noControl]
  · rfl
  · exact noMark
  · exact fun _ _ _ _ _ same _ => other same
  · exact fun _ same _ => other same
  · exact fun same _ => other same
  · exact fun _ _ same _ => other same

private theorem readText_control {character : Char} (control : character.toNat < 0x20)
    (rest : List Char) :
    readText none ('\\' :: 'u' :: '0' :: '0' :: hexDigit (character.toNat / 16) ::
      hexDigit (character.toNat % 16) :: rest) = (readText none rest).push character := by
  have notLow : ¬ isLowSurrogate character.toNat = true := by
    simp only [isLowSurrogate, Bool.and_eq_true, decide_eq_true_eq]
    omega
  have notHigh : ¬ isHighSurrogate character.toNat = true := by
    simp only [isHighSurrogate, Bool.and_eq_true, decide_eq_true_eq]
    omega
  rw [readText.eq_5 _ _ _ _ _ _ (hexUnit?_control control), if_neg notLow, if_neg notHigh,
    Char.ofNat_toNat]

/-- A character is read from the way in which it is escaped. -/
theorem readText_escapeCharacter (character : Char) (rest : List Char) :
    readText none (escapeCharacter character ++ rest) =
      (readText none rest).push character := by
  unfold escapeCharacter
  split
  case h_8 noMark noBackslash _ _ _ _ _ =>
    split
    · rename_i control
      exact readText_control control rest
    · rename_i noControl
      exact readText_plain noMark noBackslash noControl rest
  all_goals rfl

/-- A string is read from behind its opening mark. -/
theorem readText_escaped (characters rest : List Char) :
    readText none (characters.flatMap escapeCharacter ++ '"' :: rest) =
      ⟨.ok characters, .ok rest⟩ := by
  induction characters with
  | nil => rfl
  | cons character characters inductionHypothesis =>
      rw [List.flatMap_cons, List.append_assoc, readText_escapeCharacter, inductionHypothesis]
      rfl

/-! ## Integers -/

private theorem digitChar_ne_zero {value : Nat} (positive : 0 < value) (small : value < 10) :
    Nat.digitChar value ≠ '0' := by
  have table : ∀ digit < 10, 0 < digit → Nat.digitChar digit ≠ '0' := by decide
  exact table value small positive

/-- The digits of a number other than zero do not begin with zero. -/
theorem head?_toDigits_ne_zero {value : Nat} (positive : 0 < value) :
    (Nat.toDigits 10 value).head? ≠ some '0' := by
  induction value using Nat.strongRecOn with
  | ind value inductionHypothesis =>
      by_cases small : value < 10
      · rw [Nat.toDigits_of_lt_base small]
        simpa using digitChar_ne_zero positive small
      · have shorter := inductionHypothesis (value / 10) (by omega) (by omega)
        rw [Nat.toDigits_of_base_le (by decide) (by omega), List.head?_append]
        cases digits : (Nat.toDigits 10 (value / 10)).head? with
        | none => exact absurd (List.head?_eq_none_iff.mp digits) Nat.toDigits_ne_nil
        | some digit =>
            rw [digits] at shorter
            exact shorter

private theorem le_ofDigitChars (digits : List Char) (value : Nat) :
    value ≤ Nat.ofDigitChars 10 digits value := by
  induction digits generalizing value with
  | nil => simp
  | cons digit digits inductionHypothesis =>
      have further := inductionHypothesis (10 * value + (digit.toNat - '0'.toNat))
      rw [Nat.ofDigitChars_cons]
      omega

/-- Digits are appended while the value fits. -/
theorem appendDigits_of_lt {digits : List Char} {value : Nat}
    (fits : Nat.ofDigitChars 10 digits value < UInt64.size) :
    appendDigits value digits = (Nat.ofDigitChars 10 digits value, []) := by
  induction digits generalizing value with
  | nil => simp [appendDigits]
  | cons digit digits inductionHypothesis =>
      rw [Nat.ofDigitChars_cons, Nat.mul_comm] at fits ⊢
      have longer : value * 10 + digitValue digit < UInt64.size :=
        Nat.lt_of_le_of_lt (le_ofDigitChars digits _) fits
      rw [appendDigits, if_pos longer]
      exact inductionHypothesis fits

private theorem appendDigits_toDigits {value : Nat} (fits : value < UInt64.size) :
    appendDigits 0 (Nat.toDigits 10 value) = (value, []) := by
  have digits : Nat.ofDigitChars 10 (Nat.toDigits 10 value) 0 = value :=
    Nat.ofDigitChars_toDigits (by decide) (by decide)
  rw [appendDigits_of_lt (by rwa [digits]), digits]

theorem integerLiteral?_natural (value : UInt64) :
    integerLiteral? false (Nat.toDigits 10 value.toNat) = some (.natural value) := by
  rw [integerLiteral?, appendDigits_toDigits value.toNat_lt]
  simp

theorem integerLiteral?_negative (below : Fin (Nat.pow 2 63)) :
    integerLiteral? true (Nat.toDigits 10 (below + 1)) = some (.negative below) := by
  have small : below.val < 9223372036854775808 := below.isLt
  have fits : below.val + 1 < UInt64.size := by
    simp only [UInt64.size]
    omega
  have opposite : -((below.val + 1 : Nat) : Int) = Int.negSucc below := rfl
  rw [integerLiteral?, appendDigits_toDigits fits]
  simp only [opposite, Number.ofInt?, below.isLt, dif_pos]
  simp

/-! ## Ends of values -/

/-- Nothing follows, or a character that ends every value. -/
def EndsValue (rest : List Char) : Prop :=
  ∀ character ∈ rest.head?, character = ',' ∨ character = ']' ∨ character = '}'

theorem endsValue_nil : EndsValue [] := nofun

private theorem span_digits {digits rest : List Char}
    (each : ∀ digit ∈ digits, digit.isDigit = true)
    (ends : EndsValue rest) : (digits ++ rest).span Char.isDigit = (digits, rest) := by
  have stop : rest.takeWhile Char.isDigit = [] ∧ rest.dropWhile Char.isDigit = rest := by
    cases rest with
    | nil => exact ⟨rfl, rfl⟩
    | cons character rest =>
        have noDigit : ¬ character.isDigit = true := by
          rcases ends character rfl with rfl | rfl | rfl <;> decide
        exact ⟨List.takeWhile_cons_of_neg noDigit, List.dropWhile_cons_of_neg noDigit⟩
  rw [List.span_eq_takeWhile_dropWhile, List.takeWhile_append_of_pos each,
    List.dropWhile_append_of_pos each, stop.1, stop.2, List.append_nil]

/-- A number without a fraction or an exponent is an integer literal. -/
theorem readNumber_toDigits (negative : Bool) (value : Nat) {rest : List Char}
    (ends : EndsValue rest) :
    readNumber negative (Nat.toDigits 10 value ++ rest) =
      (draftOfNumber (integerLiteral? negative (Nat.toDigits 10 value)), some rest) := by
  have each : ∀ digit ∈ Nat.toDigits 10 value, digit.isDigit = true :=
    fun digit member => Nat.isDigit_of_mem_toDigits (by decide) (by decide) member
  have digits := span_digits each ends
  have leading : ∀ other others, Nat.toDigits 10 value ≠ '0' :: other :: others := by
    intro other others shape
    by_cases zero : value = 0
    · subst zero
      simp [Nat.toDigits_zero] at shape
    · have head := head?_toDigits_ne_zero (Nat.pos_of_ne_zero zero)
      rw [shape] at head
      exact head rfl
  have noPoint : ∀ after, rest ≠ '.' :: after := by
    rintro after rfl
    have impossible := ends '.' rfl
    revert impossible
    decide
  have noMark : ∀ after, rest ≠ 'e' :: after ∧ rest ≠ 'E' :: after := by
    intro after
    constructor
    · rintro rfl
      have impossible := ends 'e' rfl
      revert impossible
      decide
    · rintro rfl
      have impossible := ends 'E' rfl
      revert impossible
      decide
  rw [readNumber, digits]
  split
  case h_1 shape =>
    exact absurd (congrArg Prod.fst shape) Nat.toDigits_ne_nil
  case h_2 shape =>
    exact absurd (congrArg Prod.fst shape) (leading _ _)
  case h_3 shape =>
    exact absurd (congrArg Prod.snd shape) (noPoint _)
  case h_4 shape =>
    exact absurd (congrArg Prod.snd shape) (noMark _).1
  case h_5 shape =>
    exact absurd (congrArg Prod.snd shape) (noMark _).2
  case h_6 shape =>
    cases shape
    rfl

end QueryCompiler.Json
