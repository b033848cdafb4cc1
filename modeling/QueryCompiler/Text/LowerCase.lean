import QueryCompiler.Text.CaseTable

/-!
# Lower case of a text

The full Unicode lower-case form.  One character, the capital I with a dot, has
a form of two; the capital sigma has its final form at the end of a word.
-/

namespace QueryCompiler.Text

def lowerCharacter (character : Char) : List Char :=
  if character.toNat < 0x80 then
    [character.toLower]
  else if character = 'İ' then
    ['i', '\u0307']
  else
    match lowerCaseRanges.find? fun range =>
        range.first ≤ character.toNat && character.toNat ≤ range.last &&
          (character.toNat - range.first) % range.step == 0 with
    | some range => [Char.ofNat (character.toNat + range.shift).toNat]
    | none => [character]

/-- Whether the first character that is not passed over is a letter. -/
def meetsLetter (text : List Char) : Bool :=
  match text.dropWhile caseIgnorable.contains with
  | character :: _ => cased.contains character
  | [] => false

/-- The lower-case form of a capital sigma: the final form when a letter comes
before it and none follows. -/
def lowerSigma (before after : List Char) : Char :=
  if meetsLetter before && !meetsLetter after then 'ς' else 'σ'

/-- The lower-case form of the second text, where the first one holds the
characters before it, nearest first. -/
def lowerCaseFrom (before : List Char) : List Char → List Char
  | [] => []
  | character :: after =>
      (if character = 'Σ' then [lowerSigma before after] else lowerCharacter character) ++
        lowerCaseFrom (character :: before) after

def lowerCase (text : List Char) : List Char :=
  lowerCaseFrom [] text

end QueryCompiler.Text
