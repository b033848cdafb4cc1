import QueryCompiler.Json.Draft

/-!
# Reading JSON texts

`readDocument` reads a text into a draft.  Each part of the reader gives what it
read together with the text behind it, and no such text once a fault leaves
nothing to go on from.
-/

namespace QueryCompiler.Json

def skipBlanks (text : List Char) : List Char :=
  text.dropWhile fun character =>
    character == ' ' || character == '\t' || character == '\n' || character == '\r'

/-! ## Strings -/

def hexValue? (character : Char) : Option Nat :=
  if '0' ≤ character && character ≤ '9' then some (character.toNat - '0'.toNat)
  else if 'a' ≤ character && character ≤ 'f' then some (character.toNat - 'a'.toNat + 10)
  else if 'A' ≤ character && character ≤ 'F' then some (character.toNat - 'A'.toNat + 10)
  else none

def hexUnit? (first second third fourth : Char) : Option Nat := do
  let first ← hexValue? first
  let second ← hexValue? second
  let third ← hexValue? third
  let fourth ← hexValue? fourth
  return ((first * 16 + second) * 16 + third) * 16 + fourth

def isHighSurrogate (unit : Nat) : Bool :=
  0xD800 ≤ unit && unit ≤ 0xDBFF

def isLowSurrogate (unit : Nat) : Bool :=
  0xDC00 ≤ unit && unit ≤ 0xDFFF

def pairedCharacter (high low : Nat) : Char :=
  Char.ofNat (0x10000 + (high - 0xD800) * 0x400 + (low - 0xDC00))

def escaped? : Char → Option Char
  | '"' => some '"'
  | '\\' => some '\\'
  | '/' => some '/'
  | 'b' => some '\x08'
  | 'f' => some '\x0c'
  | 'n' => some '\n'
  | 'r' => some '\r'
  | 't' => some '\t'
  | _ => none

/-- The rest of a string: its characters or its first fault, and the text behind
it or the fault that leaves none. -/
structure TextReading where
  content : Except TextFault (List Char)
  rest : Except TextFault (List Char)

namespace TextReading

def broken (fault : TextFault) : TextReading :=
  ⟨.error fault, .error fault⟩

def push (character : Char) (reading : TextReading) : TextReading :=
  { reading with content := reading.content.map (character :: ·) }

/-- Put a fault in front that only matters to whoever reads the string. -/
def refuse (fault : TextFault) (reading : TextReading) : TextReading :=
  { reading with content := .error fault }

/-- Put a fault in front if the first unit of a pair is waiting for the second. -/
def refuseIfWaiting (waiting : Option Nat) (reading : TextReading) : TextReading :=
  if waiting.isSome then reading.refuse .unpairedSurrogate else reading

end TextReading

/-- Read a string from behind its opening mark.  After the first unit of a pair,
`waiting` holds it until the second one comes. -/
def readText (waiting : Option Nat) : List Char → TextReading
  | [] => .broken .cut
  | '"' :: rest => .refuseIfWaiting waiting ⟨.ok [], .ok rest⟩
  | '\\' :: 'u' :: first :: second :: third :: fourth :: rest =>
      match hexUnit? first second third fourth, waiting with
      | none, _ => .broken .invalidEscape
      | some unit, some high =>
          if isLowSurrogate unit then (readText none rest).push (pairedCharacter high unit)
          else (readText none rest).refuse .loneSurrogate
      | some unit, none =>
          if isLowSurrogate unit then (readText none rest).refuse .loneSurrogate
          else if isHighSurrogate unit then readText (some unit) rest
          else (readText none rest).push (Char.ofNat unit)
  | '\\' :: 'u' :: rest =>
      .broken (if (String.ofList rest).utf8ByteSize < 4 then .cut else .invalidEscape)
  | ['\\'] => .broken .cut
  | '\\' :: letter :: rest =>
      .refuseIfWaiting waiting <|
        match escaped? letter with
        | some character => (readText none rest).push character
        | none => .broken .invalidEscape
  | character :: rest =>
      .refuseIfWaiting waiting <|
        if character.toNat < 0x20 then .broken .controlCharacter
        else (readText none rest).push character

/-! ## Numbers -/

def digitValue (character : Char) : Nat :=
  character.toNat - '0'.toNat

/-- Append digits to a significand of 64 bits while it can hold them.  The
result is the significand and the digits that were left out. -/
def appendDigits (significand : Nat) : List Char → Nat × List Char
  | [] => (significand, [])
  | digit :: digits =>
      let longer := significand * 10 + digitValue digit
      if longer < UInt64.size then appendDigits longer digits
      else (significand, digit :: digits)

/-- Divide a double by `1e308` so many times, or until it is zero. -/
def divideRepeatedly? : Nat → Binary64 → Option Binary64
  | 0, value => some value
  | times + 1, value =>
      if value.units = 0 then some value
      else (value.div? (.powerOfTen 308)).bind (divideRepeatedly? times)

/-- Scale a double by a power of ten: with one rounded product or quotient, after
as many quotients by `1e308` as leave an exponent of at most that size. -/
def scaleByTen? (value : Binary64) (exponent : Int) : Option Binary64 :=
  let size := exponent.natAbs
  if 0 ≤ exponent then
    if size ≤ 308 then value.mul? (.powerOfTen size)
    else if value.units = 0 then some value
    else none
  else
    let times := (size - 1) / 308
    (divideRepeatedly? times value).bind fun value =>
      value.div? (.powerOfTen (size - 308 * times))

/-- A double from its sign, significand and exponent of ten, if it is within
range. -/
def floatOfDecimal? (negative : Bool) (significand : Nat) (exponent : Int) : Option Number :=
  (scaleByTen? (.ofInt significand) exponent).map fun value =>
    .float (value.withSign negative)

/-- An integer literal: of an integer kind if it fits, and a double otherwise.
Negative zero is a double. -/
def integerLiteral? (negative : Bool) (digits : List Char) : Option Number :=
  match appendDigits 0 digits with
  | (significand, []) =>
      if negative then
        if significand = 0 then some (.float (.zero true))
        else
          match Number.ofInt? (-significand) with
          | some integer => some integer
          | none => some (.float ((Binary64.ofInt significand).withSign true))
      else
        some (.natural (.ofNat significand))
  | (significand, dropped) => floatOfDecimal? negative significand dropped.length

/-- A literal with a fraction or an exponent.  Digits that the significand
cannot hold are left out; those of the whole part count in the exponent. -/
def decimalLiteral? (negative : Bool) (whole fraction : List Char) (exponent : Int) :
    Option Number :=
  let (leading, dropped) := appendDigits 0 whole
  let (significand, left) := appendDigits leading fraction
  floatOfDecimal? negative significand
    (exponent + dropped.length - (fraction.length - left.length : Nat))

def draftOfNumber : Option Number → Draft
  | some value => .number value
  | none => .fault .numberOutOfRange

def missingDigit (rest : List Char) : Draft × Option (List Char) :=
  (.fault (if rest.isEmpty then .numberCut else .numberWrong), none)

def readExponent (negative : Bool) (whole fraction : List Char) (text : List Char) :
    Draft × Option (List Char) :=
  let (below, text) :=
    match text with
    | '+' :: rest => (false, rest)
    | '-' :: rest => (true, rest)
    | rest => (false, rest)
  match text.span Char.isDigit with
  | ([], rest) => missingDigit rest
  | (digits, rest) =>
      let magnitude : Int := digits.foldl (fun value digit => value * 10 + digitValue digit) 0
      (draftOfNumber <| decimalLiteral? negative whole fraction <|
        if below then -magnitude else magnitude, some rest)

def readNumber (negative : Bool) (text : List Char) : Draft × Option (List Char) :=
  match text.span Char.isDigit with
  | ([], rest) => missingDigit rest
  | ('0' :: _ :: _, _) => (.fault .numberWrong, none)
  | (whole, '.' :: rest) =>
      match rest.span Char.isDigit with
      | ([], rest) => missingDigit rest
      | (fraction, 'e' :: rest) => readExponent negative whole fraction rest
      | (fraction, 'E' :: rest) => readExponent negative whole fraction rest
      | (fraction, rest) => (draftOfNumber (decimalLiteral? negative whole fraction 0), some rest)
  | (whole, 'e' :: rest) => readExponent negative whole [] rest
  | (whole, 'E' :: rest) => readExponent negative whole [] rest
  | (whole, rest) => (draftOfNumber (integerLiteral? negative whole), some rest)

/-! ## Values -/

def readLiteral (value : Draft) : List Char → List Char → Draft × Option (List Char)
  | [], rest => (value, some rest)
  | _ :: _, [] => (.fault .literalCut, none)
  | letter :: letters, character :: rest =>
      if character = letter then readLiteral value letters rest
      else (.fault .literalWrong, none)

def draftOfText (reading : TextReading) : Draft × Option (List Char) :=
  (match reading.content with
    | .ok characters => .string (String.ofList characters)
    | .error fault =>
        .fault (.text fault (match reading.rest with
          | .ok _ => none
          | .error lasting => some lasting)),
    reading.rest.toOption)

def readScalar : List Char → Draft × Option (List Char)
  | [] => (.fault .absent, none)
  | '"' :: rest => draftOfText (readText none rest)
  | 'n' :: rest => readLiteral .null ['u', 'l', 'l'] rest
  | 't' :: rest => readLiteral (.bool true) ['r', 'u', 'e'] rest
  | 'f' :: rest => readLiteral (.bool false) ['a', 'l', 's', 'e'] rest
  | '-' :: rest => readNumber true rest
  | character :: rest =>
      if character.isDigit then readNumber false (character :: rest)
      else (.fault .noValue, none)

def foundInPlaceOfKey : List Char → Except Fault Found
  | '[' :: _ => .ok .sequence
  | '{' :: _ => .ok .map
  | text =>
      match (readScalar text).1 with
      | .fault cause => .error cause
      | .null => .ok .null
      | .bool value => .ok (.bool value)
      | .number value => .ok (.of (.number value))
      | .string value => .ok (.string value)
      | _ => .error .noValue

/-- Mark a container that is nested deeper than the limit allows. -/
def limitDepth (limit : Nat) (contents : Draft) : Draft :=
  if limit = 0 then .tooDeep contents else contents

mutual

/-- Read a value; at most `limit` containers may be nested in it. -/
def readValue (fuel limit : Nat) (text : List Char) : Draft × Option (List Char) :=
  match fuel with
  | 0 => (.fault .absent, none)
  | fuel + 1 =>
      match skipBlanks text with
      | '[' :: rest =>
          let (items, ending, rest) := readItems fuel (limit - 1) rest
          (limitDepth limit (.array items ending), rest)
      | '{' :: rest =>
          let (members, ending, rest) := readMembers fuel (limit - 1) rest
          (limitDepth limit (.object members ending), rest)
      | other => readScalar other

/-- Read the items of a list from behind its opening bracket. -/
def readItems (fuel limit : Nat) (text : List Char) :
    List Draft × ListEnd × Option (List Char) :=
  match fuel with
  | 0 => ([], .cut, none)
  | fuel + 1 =>
      match skipBlanks text with
      | [] => ([], .cut, none)
      | ']' :: rest => ([], .closed, some rest)
      | other => readMoreItems fuel limit other

def readMoreItems (fuel limit : Nat) (text : List Char) :
    List Draft × ListEnd × Option (List Char) :=
  match fuel with
  | 0 => ([], .cut, none)
  | fuel + 1 =>
      let (item, rest) := readValue fuel limit text
      match rest with
      | none => ([item], .closed, none)
      | some rest =>
          match skipBlanks rest with
          | [] => ([item], .cut, none)
          | ']' :: rest => ([item], .closed, some rest)
          | ',' :: rest =>
              match skipBlanks rest with
              | ']' :: _ => ([item], .trailingComma, none)
              | rest =>
                  let (items, ending, rest) := readMoreItems fuel limit rest
                  (item :: items, ending, rest)
          | _ => ([item], .noComma, none)

def readMembers (fuel limit : Nat) (text : List Char) :
    List (Except TextFault String × Draft) × ObjectEnd × Option (List Char) :=
  match fuel with
  | 0 => ([], .cut, none)
  | fuel + 1 =>
      match skipBlanks text with
      | [] => ([], .cut, none)
      | '}' :: rest => ([], .closed, some rest)
      | other => readMoreMembers fuel limit other

def readMoreMembers (fuel limit : Nat) (text : List Char) :
    List (Except TextFault String × Draft) × ObjectEnd × Option (List Char) :=
  match fuel with
  | 0 => ([], .cut, none)
  | fuel + 1 =>
      match text with
      | '"' :: text =>
          let reading := readText none text
          match reading.rest, reading.content with
          | .error lasting, .error first => ([], .brokenKey first lasting, none)
          | .error lasting, .ok _ => ([], .brokenKey lasting lasting, none)
          | .ok rest, content =>
              let key := content.map String.ofList
              match skipBlanks rest with
              | [] => ([(key, .fault .colonCut)], .closed, none)
              | ':' :: rest =>
                  let (value, rest) := readValue fuel limit rest
                  match rest with
                  | none => ([(key, value)], .closed, none)
                  | some rest =>
                      match skipBlanks rest with
                      | [] => ([(key, value)], .cut, none)
                      | '}' :: rest => ([(key, value)], .closed, some rest)
                      | ',' :: rest =>
                          match skipBlanks rest with
                          | [] => ([(key, value)], .cutAfterComma, none)
                          | '}' :: _ => ([(key, value)], .trailingComma, none)
                          | rest =>
                              let (members, ending, rest) := readMoreMembers fuel limit rest
                              ((key, value) :: members, ending, rest)
                      | _ => ([(key, value)], .noComma, none)
              | _ => ([(key, .fault .noColon)], .closed, none)
      | other => ([], .keyNotString (foundInPlaceOfKey other), none)

end

/-! ## Documents -/

/-- The deepest nesting of lists and objects that a text may have. -/
def nestingLimit : Nat := 127

/-- Read a text with at most `limit` containers within each other.  No character
takes more than three steps. -/
def readDocument (limit : Nat) (text : String) : Draft × Option (List Char) :=
  readValue (3 * text.length + 3) limit text.toList

/-- Decode a text; nothing but blanks may stand behind its value. -/
def decodeTextWithin {α : Type} (limit : Nat) (decode : Draft → Except ReadError α)
    (text : String) : Except ReadError α := do
  let (draft, rest) := readDocument limit text
  let value ← decode draft
  if (skipBlanks (rest.getD [])).isEmpty then
    return value
  else
    throw (.malformed .trailingCharacters)

/-- Decode a text that keeps the usual limit of nesting. -/
def decodeText {α : Type} (decode : Draft → Except ReadError α) (text : String) :
    Except ReadError α :=
  decodeTextWithin nestingLimit decode text

def parse (text : String) : Except ReadError Json :=
  decodeText Draft.value text

end QueryCompiler.Json
