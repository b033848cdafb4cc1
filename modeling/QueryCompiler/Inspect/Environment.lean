import QueryCompiler.Inspect.Settings
import QueryCompiler.Text.Alphanumeric
import QueryCompiler.Text.Blank

/-!
# Environment files

Each line of an environment file sets a variable, unless the environment has it
already.  A value may be quoted, in apostrophes as it stands or in quotation
marks, and refers to other variables by a dollar sign.  Reading stops at the
first line that is not understood.

A line may go on behind its end within quotation.  Where lines end is found out
before they are understood (`EnvironmentFile.lines`), with a notion of quotation
of its own: there a backslash also stands before an apostrophe.
-/

namespace QueryCompiler.Inspect

/-- The value of a variable; empty if there is none. -/
def Environment.value (environment : Environment) (name : List Char) : List Char :=
  ((environment.lookup (String.ofList name)).getD "").toList

/-- Whether a text can be the value of a variable. -/
def isVariableText (text : String) : Bool :=
  !text.toList.contains '\x00'

namespace EnvironmentFile

/-! ## Lines -/

inductive Surrounding where
  /-- Behind nothing but blanks. -/
  | margin
  | words
  /-- Behind a single blank. -/
  | gap
  /-- Behind a backslash outside quotation. -/
  | escape
  | apostrophes
  | apostrophesEscape
  | marks
  | marksEscape
  | comment
  deriving DecidableEq, Repr

namespace Surrounding

def mayEnd : Surrounding → Bool
  | margin | words | comment => true
  | _ => false

/-- What stands behind a character that may begin quotation. -/
def behindWord (character : Char) : Surrounding :=
  match character with
  | '\\' => escape
  | '"' => marks
  | '\'' => apostrophes
  | _ => words

def next (surrounding : Surrounding) (character : Char) : Surrounding :=
  match surrounding with
  | margin =>
      if Text.isBlank character then margin
      else if character == '#' then comment
      else behindWord character
  | words =>
      if Text.isBlank character && character != '\n' && character != '\r' then gap
      else behindWord character
  | gap => if character == '#' then comment else behindWord character
  | escape => words
  | apostrophes =>
      match character with
      | '\\' => apostrophesEscape
      | '\'' => words
      | _ => apostrophes
  | apostrophesEscape => apostrophes
  | marks =>
      match character with
      | '\\' => marksEscape
      | '"' => words
      | _ => marks
  | marksEscape => marks
  | comment => comment

end Surrounding

/-- The lines of a text without their comments.  A last line that may not end is
left out. -/
def linesFrom (surrounding : Surrounding) : List Char → List (List Char)
  | [] => if surrounding.mayEnd then [[]] else []
  | character :: rest =>
      let behind := surrounding.next character
      if character == '\n' && behind.mayEnd then
        [] :: linesFrom .margin rest
      else
        match linesFrom behind rest with
        | [] => []
        | line :: others =>
            (if behind = .comment then line else character :: line) :: others

/-- The lines of a file, which may begin with a byte order mark. -/
def lines : List Char → List (List Char)
  | '\uFEFF' :: rest => linesFrom .margin rest
  | text => linesFrom .margin text

/-! ## Names and values -/

def beginsName (character : Char) : Bool :=
  character.isAlpha || character == '_'

def continuesName (character : Char) : Bool :=
  character.isAlphanum || character == '_' || character == '.'

def name? (text : List Char) : Option (List Char × List Char) :=
  if text.head?.any beginsName then some (text.span continuesName) else none

def behindEquals? (text : List Char) : Option (List Char) :=
  match text.dropWhile Text.isBlank with
  | '=' :: rest => some (rest.dropWhile Text.isBlank)
  | _ => none

inductive Mode where
  | bare
  | apostrophes
  | marks
  /-- Behind a value: blanks and a comment may follow. -/
  | finished
  deriving DecidableEq, Repr

def escaped? : Char → Option Char
  | '\\' => some '\\'
  | '\'' => some '\''
  | '"' => some '"'
  | '$' => some '$'
  | ' ' => some ' '
  | 'n' => some '\n'
  | _ => none

/-- Read a value.  `reference` holds the name of a variable that is being read,
and `braced` tells whether it stands in braces. -/
def value? (environment : Environment) (mode : Mode) (braced : Bool)
    (reference : Option (List Char)) : List Char → Option (List Char)
  | [] =>
      if mode = .apostrophes || mode = .marks || braced then none
      else some ((reference.map environment.value).getD [])
  | character :: rest =>
      match mode, reference with
      | .finished, _ =>
          if character == ' ' || character == '\t' then
            value? environment mode braced reference rest
          else if character == '#' then some []
          else none
      | .apostrophes, _ =>
          if character == '\'' then value? environment .bare braced reference rest
          else (value? environment mode braced reference rest).map (character :: ·)
      | _, some name =>
          if braced then
            if character == '}' then
              (value? environment mode false none rest).map (environment.value name ++ ·)
            else
              value? environment mode true (some (name ++ [character])) rest
          else if Text.alphanumeric.contains character then
            value? environment mode false (some (name ++ [character])) rest
          else if character == '{' && name.isEmpty then
            value? environment mode true (some []) rest
          else if character == '$' then
            (value? environment mode false (some []) rest).map (environment.value name ++ ·)
          else
            (value? environment mode false none rest).map
              (environment.value name ++ character :: ·)
      | _, none =>
          if character == '$' then value? environment mode false (some []) rest
          else if character == '\\' then
            match rest with
            | [] => if mode = .marks then none else some []
            | letter :: rest => do
                let character ← escaped? letter
                let characters ← value? environment mode false none rest
                return character :: characters
          else if mode = .marks then
            if character == '"' then value? environment .bare false none rest
            else (value? environment mode false none rest).map (character :: ·)
          else if character == '\'' then value? environment .apostrophes false none rest
          else if character == '"' then value? environment .marks false none rest
          else if character == ' ' || character == '\t' then
            value? environment .finished false none rest
          else
            (value? environment mode false none rest).map (character :: ·)

/-! ## Assignments -/

def assignment? (text : List Char) : Option (List Char × List Char) := do
  let (name, rest) ← name? text
  return (name, ← behindEquals? rest)

/-- The assignment of a line, with the word `export` in front of it or not. -/
def exportedAssignment? (text : List Char) : Option (List Char × List Char) :=
  match assignment? text, name? text with
  | some assignment, _ => some assignment
  | none, some (name, rest) =>
      if name = "export".toList then assignment? (rest.dropWhile Text.isBlank) else none
  | none, none => none

/-- What a line says: nothing, or the value of a variable. -/
def line? (environment : Environment) (line : List Char) : Option (Option (String × String)) :=
  let text := Text.trimBlank line
  if text.isEmpty || text.head? == some '#' then
    some none
  else do
    let (name, rest) ← exportedAssignment? text
    let value ←
      if rest.head? == some '#' then some []
      else value? environment .bare false none rest
    return some (String.ofList name, String.ofList value)

/-- The environment after the lines of a file, if all their values can be
variables. -/
def extend (environment : Environment) : List (List Char) → Option Environment
  | [] => some environment
  | line :: lines =>
      match line? environment line with
      | none => some environment
      | some none => extend environment lines
      | some (some (name, value)) =>
          if (environment.lookup name).isSome then extend environment lines
          else if isVariableText value then extend (environment ++ [(name, value)]) lines
          else none

end EnvironmentFile

/-- The environment after a file that sets further variables, if it can. -/
def Environment.load? (environment : Environment) (text : String) : Option Environment :=
  EnvironmentFile.extend environment (EnvironmentFile.lines text.toList)

end QueryCompiler.Inspect
