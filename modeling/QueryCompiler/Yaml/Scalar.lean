import QueryCompiler.Json.Reader

/-!
# YAML scalars

The characters of plain and quoted scalars.  A scalar may go over several lines:
the gap between two of its words is kept within a line, and folded where lines
end.
-/

namespace QueryCompiler.Yaml

def isBlank (character : Char) : Bool :=
  character == ' ' || character == '\t'

def isBreak (character : Char) : Bool :=
  character == '\n' || character == '\u2028' || character == '\u2029'

/-- Whether a text begins with a blank or a line end, or is empty. -/
def beginsBlank : List Char → Bool
  | [] => true
  | character :: _ => isBlank character || isBreak character

/-- Whether a text begins with a line that marks a document. -/
def beginsDocumentMark : List Char → Bool
  | '-' :: '-' :: '-' :: rest => beginsBlank rest
  | '.' :: '.' :: '.' :: rest => beginsBlank rest
  | _ => false

/-- The text behind the end of a line on which nothing but blanks and a comment
may follow. -/
def restOfLine? (text : List Char) : Option (List Char) :=
  let text := text.dropWhile isBlank
  let text := if text.head? == some '#' then text.dropWhile (!isBreak ·) else text
  match text with
  | [] => some []
  | character :: rest => if isBreak character then some rest else none

/-! ## Gaps -/

/-- What stands between two words: nothing, blanks, or line ends.  The first line
end is missing where a backslash took it away. -/
inductive Gap where
  | none
  | blanks (characters : List Char)
  | broken (first : Option Char) (others : List Char)

namespace Gap

/-- The gap with a blank more.  Blanks beside line ends do not count. -/
def addBlank (character : Char) : Gap → Gap
  | none => blanks [character]
  | blanks characters => blanks (characters ++ [character])
  | broken first others => broken first others

def addBreak (character : Char) : Gap → Gap
  | broken first others => broken first (others ++ [character])
  | _ => broken (some character) []

/-- The characters that stand for a gap.  A single line end becomes a blank, and
the first of several is left out. -/
def folded : Gap → List Char
  | none => []
  | blanks characters => characters
  | broken (some '\n') [] => [' ']
  | broken (some '\n') others => others
  | broken (some character) others => character :: others
  | broken Option.none others => others

def isBroken : Gap → Bool
  | broken _ _ => true
  | _ => false

def isSome : Gap → Bool
  | none => false
  | _ => true

end Gap

/-! ## Plain scalars -/

/-- A plain scalar, the text behind it, and whether a line ended between them. -/
structure PlainReading where
  characters : List Char
  rest : List Char
  broken : Bool

def isFlowIndicator (character : Char) : Bool :=
  character == ',' || character == '[' || character == ']' || character == '{' ||
    character == '}'

/-- Whether a plain scalar ends in front of a word, at a column behind a gap.
Outside flow collections its further lines are indented at least by `indent`. -/
def endsBeforeWord (flow : Bool) (indent column : Nat) (gap : Gap) (word : List Char) : Bool :=
  gap.isSome &&
    ((gap.isBroken && !flow && column < indent) ||
      (column == 0 && beginsDocumentMark word) || word.head? == some '#')

def endsBeforeCharacter (flow : Bool) (character : Char) (rest : List Char) : Bool :=
  (character == ':' && beginsBlank rest) || (flow && isFlowIndicator character)

/-- Whether a colon within a flow collection stands where it has no meaning. -/
def isStrayColon (flow : Bool) (character : Char) (rest : List Char) : Bool :=
  flow && character == ':' &&
    rest.head?.any fun next => isFlowIndicator next || next == '?'

/-- Read a plain scalar from a column, behind a gap. -/
def readPlain (flow : Bool) (indent : Nat) : Nat → Gap → List Char → Option PlainReading
  | _, gap, [] => some ⟨[], [], gap.isBroken⟩
  | column, gap, character :: rest =>
      if isBreak character then
        readPlain flow indent 0 (gap.addBreak character) rest
      else if isBlank character then
        if gap.isBroken && column < indent && character == '\t' then none
        else readPlain flow indent (column + 1) (gap.addBlank character) rest
      else if endsBeforeWord flow indent column gap (character :: rest) then
        some ⟨[], character :: rest, gap.isBroken⟩
      else if isStrayColon flow character rest then
        none
      else if endsBeforeCharacter flow character rest then
        some ⟨[], character :: rest, gap.isBroken⟩
      else
        (readPlain flow indent (column + 1) .none rest).map fun reading =>
          { reading with characters := gap.folded ++ character :: reading.characters }

/-! ## Quoted scalars -/

structure QuotedReading where
  characters : List Char
  rest : List Char

def QuotedReading.push (characters : List Char) (reading : QuotedReading) : QuotedReading :=
  { reading with characters := characters ++ reading.characters }

/-- Read a scalar between apostrophes from behind the first one.  Two of them
stand for one. -/
def readSingle : Nat → Gap → List Char → Option QuotedReading
  | _, _, [] => none
  | column, gap, '\'' :: '\'' :: rest =>
      (readSingle (column + 2) .none rest).map (.push (gap.folded ++ ['\'']))
  | _, gap, '\'' :: rest => some ⟨gap.folded, rest⟩
  | column, gap, character :: rest =>
      if isBreak character then
        readSingle 0 (gap.addBreak character) rest
      else if isBlank character then
        readSingle (column + 1) (gap.addBlank character) rest
      else if column == 0 && beginsDocumentMark (character :: rest) then
        none
      else
        (readSingle (column + 1) .none rest).map (.push (gap.folded ++ [character]))

def escaped? : Char → Option Char
  | '0' => some '\x00'
  | 'a' => some '\x07'
  | 'b' => some '\x08'
  | 't' => some '\t'
  | '\t' => some '\t'
  | 'n' => some '\n'
  | 'v' => some '\x0b'
  | 'f' => some '\x0c'
  | 'r' => some '\r'
  | 'e' => some '\x1b'
  | ' ' => some ' '
  | '"' => some '"'
  | '/' => some '/'
  | '\\' => some '\\'
  | 'N' => some '\u0085'
  | '_' => some '\u00a0'
  | 'L' => some '\u2028'
  | 'P' => some '\u2029'
  | _ => none

def hexValue? (digits : List Char) : Option Nat :=
  digits.foldlM (fun value digit => (Json.hexValue? digit).map (value * 16 + ·)) 0

def hexCharacter? (digits : List Char) : Option Char := do
  let value ← hexValue? digits
  if value.isValidChar then some (Char.ofNat value) else none

def readDouble : Nat → Gap → List Char → Option QuotedReading
  | _, _, [] => none
  | _, gap, '"' :: rest => some ⟨gap.folded, rest⟩
  | column, gap, '\\' :: 'x' :: a :: b :: rest => do
      let character ← hexCharacter? [a, b]
      let reading ← readDouble (column + 4) .none rest
      return reading.push (gap.folded ++ [character])
  | column, gap, '\\' :: 'u' :: a :: b :: c :: d :: rest => do
      let character ← hexCharacter? [a, b, c, d]
      let reading ← readDouble (column + 6) .none rest
      return reading.push (gap.folded ++ [character])
  | column, gap, '\\' :: 'U' :: a :: b :: c :: d :: e :: f :: g :: h :: rest => do
      let character ← hexCharacter? [a, b, c, d, e, f, g, h]
      let reading ← readDouble (column + 10) .none rest
      return reading.push (gap.folded ++ [character])
  | column, gap, '\\' :: letter :: rest =>
      if isBreak letter then
        (readDouble 0 (.broken none []) rest).map (.push gap.folded)
      else do
        let character ← escaped? letter
        let reading ← readDouble (column + 2) .none rest
        return reading.push (gap.folded ++ [character])
  | column, gap, character :: rest =>
      if isBreak character then
        readDouble 0 (gap.addBreak character) rest
      else if isBlank character then
        readDouble (column + 1) (gap.addBlank character) rest
      else if column == 0 && beginsDocumentMark (character :: rest) then
        none
      else
        (readDouble (column + 1) .none rest).map (.push (gap.folded ++ [character]))

end QueryCompiler.Yaml
