import QueryCompiler.Json.Basic

/-!
# JSON texts

The compact text has no blanks at all; the pretty text has a line for each item
and member, indented by two blanks a level.  Each writer puts the text of a
value in front of a text that follows it.
-/

namespace QueryCompiler.Json

/-! ## Strings -/

def hexDigit (value : Nat) : Char :=
  Nat.digitChar value

/-- A character within a string: marks, backslashes and controls are escaped,
and every other character stands for itself. -/
def escapeCharacter (character : Char) : List Char :=
  match character with
  | '"' => ['\\', '"']
  | '\\' => ['\\', '\\']
  | '\x08' => ['\\', 'b']
  | '\t' => ['\\', 't']
  | '\n' => ['\\', 'n']
  | '\x0c' => ['\\', 'f']
  | '\r' => ['\\', 'r']
  | _ =>
      if character.toNat < 0x20 then
        ['\\', 'u', '0', '0', hexDigit (character.toNat / 16), hexDigit (character.toNat % 16)]
      else
        [character]

def writeString (value : String) (rest : List Char) : List Char :=
  '"' :: (value.toList.flatMap escapeCharacter ++ '"' :: rest)

def writeBool (value : Bool) (rest : List Char) : List Char :=
  if value then 't' :: 'r' :: 'u' :: 'e' :: rest
  else 'f' :: 'a' :: 'l' :: 's' :: 'e' :: rest

/-! ## Compact text -/

mutual

/-- Write a value in front of a text. -/
def write : Json → List Char → List Char
  | .null, rest => 'n' :: 'u' :: 'l' :: 'l' :: rest
  | .bool value, rest => writeBool value rest
  | .number value, rest => value.text ++ rest
  | .string value, rest => writeString value rest
  | .array [], rest => '[' :: ']' :: rest
  | .array (item :: items), rest => '[' :: write item (writeItems items (']' :: rest))
  | .object [], rest => '{' :: '}' :: rest
  | .object ((key, value) :: members), rest =>
      '{' :: writeString key (':' :: write value (writeMembers members ('}' :: rest)))

def writeItems : List Json → List Char → List Char
  | [], rest => rest
  | item :: items, rest => ',' :: write item (writeItems items rest)

def writeMembers : List (String × Json) → List Char → List Char
  | [], rest => rest
  | (key, value) :: members, rest =>
      ',' :: writeString key (':' :: write value (writeMembers members rest))

end

def compact (value : Json) : String :=
  String.ofList (write value [])

/-! ## Pretty text -/

def newLine (level : Nat) (rest : List Char) : List Char :=
  '\n' :: (List.replicate (2 * level) ' ' ++ rest)

mutual

/-- Write a value at a level of indentation in front of a text. -/
def writePretty (level : Nat) : Json → List Char → List Char
  | .null, rest => write .null rest
  | .bool value, rest => write (.bool value) rest
  | .number value, rest => write (.number value) rest
  | .string value, rest => write (.string value) rest
  | .array [], rest => '[' :: ']' :: rest
  | .array (item :: items), rest =>
      '[' :: newLine (level + 1) (writePretty (level + 1) item
        (writePrettyItems (level + 1) items (newLine level (']' :: rest))))
  | .object [], rest => '{' :: '}' :: rest
  | .object ((key, value) :: members), rest =>
      '{' :: newLine (level + 1) (writeString key (':' :: ' ' :: writePretty (level + 1) value
        (writePrettyMembers (level + 1) members (newLine level ('}' :: rest)))))

def writePrettyItems (level : Nat) : List Json → List Char → List Char
  | [], rest => rest
  | item :: items, rest =>
      ',' :: newLine level (writePretty level item (writePrettyItems level items rest))

def writePrettyMembers (level : Nat) : List (String × Json) → List Char → List Char
  | [], rest => rest
  | (key, value) :: members, rest =>
      ',' :: newLine level (writeString key (':' :: ' ' :: writePretty level value
        (writePrettyMembers level members rest)))

end

def pretty (value : Json) : String :=
  String.ofList (writePretty 0 value [])

end QueryCompiler.Json
