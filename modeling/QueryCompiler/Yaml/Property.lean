import QueryCompiler.Yaml.Scalar

/-!
# Properties of YAML nodes

A node may have a tag and a name under which aliases refer to it.  A tag is
written out, or as a handle for the beginning of tags and the rest.  Directives
in front of a document say what handles stand for.
-/

namespace QueryCompiler.Yaml

/-! ## Names -/

def isNameCharacter (character : Char) : Bool :=
  character.isAlphanum || character == '_' || character == '-'

def endsName (text : List Char) : Bool :=
  beginsBlank text || text.head?.any "?:,]\x7d%@`".toList.contains

def readName? (text : List Char) : Option (String × List Char) :=
  let (name, rest) := text.span isNameCharacter
  if name.isEmpty || !endsName rest then none else some (String.ofList name, rest)

/-! ## Tags -/

/-- A tag as it is written.  A tag that is written out has an empty handle. -/
structure Tag where
  handle : String
  suffix : String
  deriving DecidableEq, Repr

/-- Whether a character may stand in a tag.  In a tag that is written out three
marks of flow collections may stand as well. -/
def isTagCharacter (written : Bool) (character : Char) : Bool :=
  isNameCharacter character || ";/?:@&=+$.!~*'()".toList.contains character ||
    (written && ",[]".toList.contains character)

/-- How many octets make up a character, by the first one. -/
def octetCount? (octet : Nat) : Option Nat :=
  if octet < 0x80 then some 1
  else if octet / 0x20 = 0x06 then some 2
  else if octet / 0x10 = 0x0E then some 3
  else if octet / 0x08 = 0x1E then some 4
  else none

/-- How many octets are missing behind one more octet, where `missing` of them
were missing before it. -/
def octetsBehind? (missing octet : Nat) : Option Nat :=
  if missing = 0 then (octetCount? octet).map (· - 1)
  else if octet / 0x40 = 0x02 then some (missing - 1)
  else none

/-- Read the characters of a tag.  An octet is written as a percent sign and two
digits; `missing` of them have to come next. -/
def readTagCharacters? (written : Bool) (missing : Nat) :
    List Char → Option (List Char × List Char)
  | '%' :: high :: low :: rest => do
      let octet ← hexValue? [high, low]
      let (characters, rest) ← readTagCharacters? written (← octetsBehind? missing octet) rest
      return (Char.ofNat octet :: characters, rest)
  | [] => if missing = 0 then some ([], []) else none
  | character :: rest =>
      if missing != 0 || character == '%' then
        none
      else if isTagCharacter written character then do
        let (characters, rest) ← readTagCharacters? written 0 rest
        return (character :: characters, rest)
      else
        some ([], character :: rest)

/-- The characters of a tag that count: those in front of an octet of zero. -/
def untilZero (characters : List Char) : List Char :=
  characters.takeWhile (· != '\x00')

/-- Read the characters of a tag, of which there is one at least. -/
def readSomeTagCharacters? (written : Bool) (text : List Char) :
    Option (List Char × List Char) := do
  let (characters, rest) ← readTagCharacters? written 0 text
  if characters.isEmpty then none else some (untilZero characters, rest)

/-- Read a handle: a mark, perhaps with a word and another mark behind it.
Without the other mark the word is part of it as well. -/
def readHandle? : List Char → Option (List Char × Bool × List Char)
  | '!' :: text =>
      let (word, rest) := text.span isNameCharacter
      match rest with
      | '!' :: rest => some ('!' :: (word ++ ['!']), true, rest)
      | _ => some ('!' :: word, false, rest)
  | _ => none

/-- Read a tag without the check of what follows it. -/
def readBareTag? : List Char → Option (Tag × List Char)
  | '!' :: '<' :: text => do
      let (suffix, rest) ← readSomeTagCharacters? true text
      match rest with
      | '>' :: rest => return (⟨"", String.ofList suffix⟩, rest)
      | _ => none
  | text => do
      let (handle, named, rest) ← readHandle? text
      if named then
        let (suffix, rest) ← readSomeTagCharacters? false rest
        return (⟨String.ofList handle, String.ofList suffix⟩, rest)
      else
        let (suffix, rest) ← readTagCharacters? false 0 rest
        match untilZero (handle.drop 1 ++ suffix) with
        | [] => return (⟨"", "!"⟩, rest)
        | suffix => return (⟨"!", String.ofList suffix⟩, rest)

/-- Read a tag.  A blank follows it, or in a flow collection a comma. -/
def readTag? (flow : Bool) (text : List Char) : Option (Tag × List Char) := do
  let (tag, rest) ← readBareTag? text
  if beginsBlank rest || (flow && rest.head? == some ',') then return (tag, rest) else none

/-! ## Directives -/

inductive Directive where
  | version (major minor : Nat)
  | tag (handle beginning : String)
  deriving DecidableEq, Repr

namespace Directive

/-- Read a number of at most nine digits. -/
def readNumber? (text : List Char) : Option (Nat × List Char) :=
  let (digits, rest) := text.span Char.isDigit
  if digits.isEmpty || 9 < digits.length then none
  else some (digits.foldl (fun value digit => value * 10 + (digit.toNat - '0'.toNat)) 0, rest)

def readVersion? (text : List Char) : Option (Directive × List Char) := do
  let (major, rest) ← readNumber? (text.dropWhile isBlank)
  match rest with
  | '.' :: rest =>
      let (minor, rest) ← readNumber? rest
      return (.version major minor, rest)
  | _ => none

def readHandle? (text : List Char) : Option (Directive × List Char) := do
  let (handle, named, rest) ← Yaml.readHandle? (text.dropWhile isBlank)
  if !(named || handle == ['!']) || !rest.head?.any isBlank then none
  else
    let (beginning, rest) ← readSomeTagCharacters? true (rest.dropWhile isBlank)
    if beginsBlank rest then
      return (.tag (String.ofList handle) (String.ofList beginning), rest)
    else
      none

def read? (text : List Char) : Option (Directive × List Char) :=
  let (name, rest) := text.span isNameCharacter
  if !beginsBlank rest then none
  else if name == "YAML".toList then readVersion? rest
  else if name == "TAG".toList then readHandle? rest
  else none

end Directive

/-! ## Handles -/

abbrev Handles := List (String × String)

namespace Handles

/-- What handles stand for without a directive. -/
def standard : Handles :=
  [("!", "!"), ("!!", "tag:yaml.org,2002:")]

/-- The handles under some directives.  There may be one version, which has to be
a known one, and one directive for each handle. -/
def ofDirectives? (versioned : Bool) (handles : Handles) : List Directive → Option Handles
  | [] => some (handles ++ standard)
  | .version major minor :: directives =>
      if versioned || major != 1 || !(minor = 1 || minor = 2) then none
      else ofDirectives? true handles directives
  | .tag handle beginning :: directives =>
      if (handles.lookup handle).isSome then none
      else ofDirectives? versioned (handles ++ [(handle, beginning)]) directives

/-- The whole tag, if its handle stands for something. -/
def resolve? (handles : Handles) (tag : Tag) : Option String :=
  if tag.handle.isEmpty then some tag.suffix
  else (handles.lookup tag.handle).map (· ++ tag.suffix)

end Handles

end QueryCompiler.Yaml
