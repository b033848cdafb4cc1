import QueryCompiler.Yaml.Scalar

/-!
# YAML block scalars

A block scalar is a run of indented lines behind a header.  A literal one keeps
its line ends.  A folded one joins its lines by blanks, except beside lines that
begin with a blank.  The header tells what becomes of the line ends behind the
last line, and may tell the indentation.
-/

namespace QueryCompiler.Yaml

/-- What becomes of the line ends behind the last line: all are left out, the
first one is kept, or all are kept. -/
inductive Chomping where
  | strip
  | clip
  | keep
  deriving DecidableEq, Repr

/-! ## Headers -/

/-- The header of a block scalar and the text behind its line. -/
structure BlockHeader where
  chomping : Chomping
  indentation : Option Nat
  rest : List Char

namespace BlockHeader

def readChomping : List Char → Option Chomping × List Char
  | '+' :: rest => (some .keep, rest)
  | '-' :: rest => (some .strip, rest)
  | text => (none, text)

/-- Read an indentation of one digit, which may not be zero. -/
def readIndentation? : List Char → Option (Option Nat × List Char)
  | [] => some (none, [])
  | digit :: rest =>
      if digit == '0' then none
      else if digit.isDigit then some (some (digit.toNat - '0'.toNat), rest)
      else some (none, digit :: rest)

def read? (text : List Char) : Option BlockHeader := do
  let (first, text) := readChomping text
  let (indentation, text) ← readIndentation? text
  let (second, text) := if first.isSome then (first, text) else readChomping text
  return ⟨second.getD .clip, indentation, ← restOfLine? text⟩

end BlockHeader

/-! ## Lines -/

/-- A run of lines that hold at most blanks: their ends, the column reached behind
them, and the furthest column of all. -/
structure EmptyLines where
  breaks : List Char
  column : Nat
  furthest : Nat
  rest : List Char

/-- Pass over empty lines and over the indentation behind them.  Tabs may not
stand in an indentation. -/
def passEmptyLines? (indent : Option Nat) (column furthest : Nat) :
    List Char → Option EmptyLines
  | [] => some ⟨[], column, max furthest column, []⟩
  | character :: rest =>
      let indenting := indent.all (column < ·)
      if indenting && character == ' ' then
        passEmptyLines? indent (column + 1) furthest rest
      else if indenting && character == '\t' then
        none
      else if isBreak character then do
        let lines ← passEmptyLines? indent 0 (max furthest column) rest
        return { lines with breaks := character :: lines.breaks }
      else
        some ⟨[], column, max furthest column, character :: rest⟩

/-- A block scalar that was read up to the beginning of a line: its characters,
the end of the last line and those of the empty lines behind it, whether the
last line begins with a blank, and the column. -/
structure BlockReading where
  characters : List Char
  lineEnd : List Char
  emptyLines : List Char
  indented : Bool
  column : Nat
  rest : List Char

namespace BlockReading

/-- What joins the next line to those before it. -/
def joint (folded : Bool) (reading : BlockReading) : List Char :=
  if folded && reading.lineEnd == ['\n'] && !reading.indented &&
      !reading.rest.head?.any isBlank then
    if reading.emptyLines.isEmpty then [' '] else reading.emptyLines
  else
    reading.lineEnd ++ reading.emptyLines

def addLine? (folded : Bool) (indent : Nat) (reading : BlockReading) : Option BlockReading := do
  let (line, rest) := reading.rest.span (!isBreak ·)
  let lines ← passEmptyLines? (some indent) 0 0 (rest.drop 1)
  return {
    characters := reading.characters ++ reading.joint folded ++ line
    lineEnd := rest.take 1
    emptyLines := lines.breaks
    indented := line.head?.any isBlank
    column := lines.column
    rest := lines.rest }

/-- Read the lines that stand at a column.  Each of them has a character at
least. -/
def addLines? (folded : Bool) (indent : Nat) : Nat → BlockReading → Option BlockReading
  | 0, reading => some reading
  | fuel + 1, reading =>
      if reading.column = indent && !reading.rest.isEmpty then do
        addLines? folded indent fuel (← reading.addLine? folded indent)
      else
        some reading

def chomped (chomping : Chomping) (reading : BlockReading) : List Char :=
  match chomping with
  | .strip => reading.characters
  | .clip => reading.characters ++ reading.lineEnd
  | .keep => reading.characters ++ reading.lineEnd ++ reading.emptyLines

end BlockReading

/-- Read a block scalar from behind its first character, within a block at the
column `parent` if there is one.  If the header does not tell the indentation,
the furthest of the first lines does, but it lies to the right of the block. -/
def readBlockScalar? (folded : Bool) (parent : Option Nat) (text : List Char) :
    Option (List Char × List Char) := do
  let header ← BlockHeader.read? text
  let given := header.indentation.map (parent.getD 0 + ·)
  let lines ← passEmptyLines? given 0 0 header.rest
  let indent := given.getD (max lines.furthest (max ((parent.map (· + 1)).getD 0) 1))
  let reading ← BlockReading.addLines? folded indent text.length
    ⟨[], [], lines.breaks, false, lines.column, lines.rest⟩
  return (reading.chomped header.chomping, reading.rest)

end QueryCompiler.Yaml
