import QueryCompiler.Json.Basic
import QueryCompiler.Text.Quoted

/-!
# Errors of reading JSON

A text may end too early, may be no JSON, or may hold a value of another shape
than the one sought.  `ReadError` keeps the cause; `category` and `message` are
its outward form.
-/

namespace QueryCompiler.Json

/-- What a text was within when it ended. -/
inductive Unfinished where
  | value
  | string
  | list
  | object
  deriving DecidableEq, Repr

inductive Malformed where
  | expectedValue
  | expectedLiteral
  | expectedColon
  | expectedListEnd
  | expectedObjectEnd
  | keyNotString
  | trailingComma
  | trailingCharacters
  | invalidNumber
  | numberOutOfRange
  | invalidEscape
  | loneSurrogate
  | unpairedSurrogate
  | controlCharacter
  | nestedTooDeep
  deriving DecidableEq, Repr

/-- The kind of a value, as told to someone who sought another. -/
inductive Found where
  | null
  | bool (value : Bool)
  | integer (value : Int)
  | float (value : Binary64)
  | string (value : String)
  | sequence
  | map
  deriving DecidableEq

inductive Expected where
  | natural
  | string
  | boolean
  | sequence
  | map
  | unit
  | stringOrMap
  | mapWithSingleKey
  | variantIdentifier
  | variantIndex (count : Nat)
  | record (name : String)
  | taggedPredicate
  deriving DecidableEq, Repr

inductive ExpectedLength where
  | ofRecord (name : String) (count : Nat)
  | fewerInArray
  | inSequence (count : Nat)
  deriving DecidableEq, Repr

/-- A value of another shape than the one sought. -/
inductive Mismatch where
  | missingField (name : String)
  | duplicateField (name : String)
  | unknownVariant (name : String) (known : List String)
  | wrongType (found : Found) (expected : Expected)
  | wrongValue (found : Found) (expected : Expected)
  | wrongLength (length : Nat) (expected : ExpectedLength)
  | noVariant (name : String)
  deriving DecidableEq

inductive ReadError where
  | unfinished (inside : Unfinished)
  | malformed (fault : Malformed)
  | mismatch (reason : Mismatch)
  deriving DecidableEq

/-! ## Wording -/

def Unfinished.message : Unfinished → String
  | .value => "EOF while parsing a value"
  | .string => "EOF while parsing a string"
  | .list => "EOF while parsing a list"
  | .object => "EOF while parsing an object"

def Malformed.message : Malformed → String
  | .expectedValue => "expected value"
  | .expectedLiteral => "expected ident"
  | .expectedColon => "expected `:`"
  | .expectedListEnd => "expected `,` or `]`"
  | .expectedObjectEnd => "expected `,` or `\x7d`"
  | .keyNotString => "key must be a string"
  | .trailingComma => "trailing comma"
  | .trailingCharacters => "trailing characters"
  | .invalidNumber => "invalid number"
  | .numberOutOfRange => "number out of range"
  | .invalidEscape => "invalid escape"
  | .loneSurrogate => "lone leading surrogate in hex escape"
  | .unpairedSurrogate => "unexpected end of hex escape"
  | .controlCharacter => "control character (\\u0000-\\u001F) found while parsing a string"
  | .nestedTooDeep => "recursion limit exceeded"

/-- The kind of a value without its contents. -/
def Found.of : Json → Found
  | .null => .null
  | .bool value => .bool value
  | .number (.natural value) => .integer value.toNat
  | .number (.negative below) => .integer (Int.negSucc below)
  | .number (.float value) => .float value
  | .string value => .string value
  | .array _ => .sequence
  | .object _ => .map

def Found.message : Found → String
  | .null => "null"
  | .bool value => "boolean `" ++ (if value then "true" else "false") ++ "`"
  | .integer value => "integer `" ++ toString value ++ "`"
  | .float value => "floating point `" ++ String.ofList (Number.floatText value) ++ "`"
  | .string value => "string " ++ Text.quote value
  | .sequence => "sequence"
  | .map => "map"

def Expected.message : Expected → String
  | .natural => "u64"
  | .string => "a string"
  | .boolean => "a boolean"
  | .sequence => "a sequence"
  | .map => "a map"
  | .unit => "unit"
  | .stringOrMap => "string or map"
  | .mapWithSingleKey => "map with a single key"
  | .variantIdentifier => "variant identifier"
  | .variantIndex count => "variant index 0 <= i < " ++ toString count
  | .record name => "struct " ++ name
  | .taggedPredicate => "internally tagged enum Predicate"

def countElements (count : Nat) : String :=
  toString count ++ (if count = 1 then " element" else " elements")

def ExpectedLength.message : ExpectedLength → String
  | .ofRecord name count => "struct " ++ name ++ " with " ++ countElements count
  | .fewerInArray => "fewer elements in array"
  | .inSequence count => countElements count ++ " in sequence"

def oneOf (names : List String) : String :=
  match names.map fun name => "`" ++ name ++ "`" with
  | [first, second] => first ++ " or " ++ second
  | quoted => "one of " ++ ", ".intercalate quoted

def Mismatch.message : Mismatch → String
  | .missingField name => "missing field `" ++ name ++ "`"
  | .duplicateField name => "duplicate field `" ++ name ++ "`"
  | .unknownVariant name known => "unknown variant `" ++ name ++ "`, expected " ++ oneOf known
  | .wrongType found expected =>
      "invalid type: " ++ found.message ++ ", expected " ++ expected.message
  | .wrongValue found expected =>
      "invalid value: " ++ found.message ++ ", expected " ++ expected.message
  | .wrongLength length expected =>
      "invalid length " ++ toString length ++ ", expected " ++ expected.message
  | .noVariant name => "data did not match any variant of untagged enum " ++ name

def ReadError.message : ReadError → String
  | .unfinished inside => inside.message
  | .malformed fault => fault.message
  | .mismatch reason => reason.message

def ReadError.category : ReadError → String
  | .unfinished _ => "eof"
  | .malformed _ => "syntax"
  | .mismatch _ => "data"

end QueryCompiler.Json
