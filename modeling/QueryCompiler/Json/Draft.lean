import QueryCompiler.Json.Error

/-!
# Drafts of JSON values

A draft is the structure of a text before anyone has said what it should hold.
Faults stand at their places in it, so that whoever reads the draft in order
meets the first one of the parts that matter.  A fault that only a reader
minds, such as a number out of range, is no obstacle to passing over a value.

Every value is a draft without faults (`Draft.ofJson`), so one decoder serves
texts and values.
-/

namespace QueryCompiler.Json

/-! ## Faults -/

inductive TextFault where
  | cut
  | controlCharacter
  | invalidEscape
  | loneSurrogate
  | unpairedSurrogate
  deriving DecidableEq, Repr

def TextFault.error : TextFault → ReadError
  | .cut => .unfinished .string
  | .controlCharacter => .malformed .controlCharacter
  | .invalidEscape => .malformed .invalidEscape
  | .loneSurrogate => .malformed .loneSurrogate
  | .unpairedSurrogate => .malformed .unpairedSurrogate

inductive Fault where
  /-- The text ends before the value. -/
  | absent
  /-- The text goes on with something that begins no value. -/
  | noValue
  /-- The text ends within `true`, `false` or `null`. -/
  | literalCut
  /-- One of these words is misspelt. -/
  | literalWrong
  /-- The text ends where a number needs a digit. -/
  | numberCut
  /-- A number has another character where it needs a digit. -/
  | numberWrong
  /-- The number is beyond the largest double. -/
  | numberOutOfRange
  /-- A string with its first fault, and with the one that also stops whoever
  passes over it. -/
  | text (first : TextFault) (lasting : Option TextFault)
  /-- The text ends before the colon of a member. -/
  | colonCut
  /-- Another character stands in place of the colon. -/
  | noColon
  deriving DecidableEq, Repr

/-- The error for whoever reads the value. -/
def Fault.reading : Fault → ReadError
  | .absent => .unfinished .value
  | .noValue => .malformed .expectedValue
  | .literalCut => .unfinished .value
  | .literalWrong => .malformed .expectedLiteral
  | .numberCut => .unfinished .value
  | .numberWrong => .malformed .invalidNumber
  | .numberOutOfRange => .malformed .numberOutOfRange
  | .text first _ => first.error
  | .colonCut => .unfinished .object
  | .noColon => .malformed .expectedColon

/-- The error for whoever passes over the value, if it stops them. -/
def Fault.skipping : Fault → Option ReadError
  | .numberCut => some (.malformed .invalidNumber)
  | .numberOutOfRange => none
  | .text _ lasting => lasting.map TextFault.error
  | other => some other.reading

/-- The error for whoever looks for a name among variants, and therefore goes
into strings only. -/
def Fault.naming : Fault → ReadError
  | .absent => .unfinished .value
  | .text first _ => first.error
  | .colonCut => .unfinished .object
  | .noColon => .malformed .expectedColon
  | _ => .malformed .expectedValue

/-! ## Drafts -/

/-- How the items of a list end.  A comma with nothing behind it counts as an
absent item. -/
inductive ListEnd where
  | closed
  | cut
  | noComma
  | trailingComma
  deriving DecidableEq, Repr

inductive ObjectEnd where
  | closed
  | cut
  | cutAfterComma
  | noComma
  | trailingComma
  /-- A key begins with something other than a quotation mark. -/
  | keyNotString (found : Except Fault Found)
  /-- A key has a fault that also stops whoever passes over it. -/
  | brokenKey (first lasting : TextFault)

/-- The structure of a text. -/
inductive Draft where
  | fault (cause : Fault)
  | null
  | bool (value : Bool)
  | number (value : Number)
  | string (value : String)
  | array (items : List Draft) (ending : ListEnd)
  | object (members : List (Except TextFault String × Draft)) (ending : ObjectEnd)
  /-- A container that is nested too deep to be read. -/
  | tooDeep (contents : Draft)

namespace ListEnd

/-- The error for whoever looks for another item. -/
def reading : ListEnd → Except ReadError Unit
  | .closed => .ok ()
  | .cut => .error (.unfinished .list)
  | .noComma => .error (.malformed .expectedListEnd)
  | .trailingComma => .error (.malformed .trailingComma)

def skipping : ListEnd → Except ReadError Unit
  | .trailingComma => .error (.malformed .expectedValue)
  | other => other.reading

/-- The error for whoever wants the list to end here. -/
def closing : ListEnd → Except ReadError Unit
  | .noComma => .error (.malformed .trailingCharacters)
  | other => other.reading

end ListEnd

namespace ObjectEnd

def reading : ObjectEnd → Except ReadError Unit
  | .closed => .ok ()
  | .cut => .error (.unfinished .object)
  | .cutAfterComma => .error (.unfinished .value)
  | .noComma => .error (.malformed .expectedObjectEnd)
  | .trailingComma => .error (.malformed .trailingComma)
  | .keyNotString _ => .error (.malformed .keyNotString)
  | .brokenKey first _ => .error first.error

def skipping : ObjectEnd → Except ReadError Unit
  | .cutAfterComma => .error (.unfinished .object)
  | .trailingComma => .error (.malformed .keyNotString)
  | .brokenKey _ lasting => .error lasting.error
  | other => other.reading

/-- The error for whoever looks for the one name that the object should hold
instead of members. -/
def naming : ObjectEnd → ReadError
  | .cut => .unfinished .value
  | .keyNotString (.ok found) => .mismatch (.wrongType found .variantIdentifier)
  | .keyNotString (.error cause) => cause.reading
  | .brokenKey first _ => first.error
  | _ => .malformed .expectedValue

def closing : ObjectEnd → Except ReadError Unit
  | .closed => .ok ()
  | .cut => .error (.unfinished .object)
  | _ => .error (.malformed .expectedValue)

end ObjectEnd

namespace Draft

/-! ## Values as drafts -/

mutual

/-- A value as a draft without faults. -/
def ofJson : Json → Draft
  | .null => .null
  | .bool value => .bool value
  | .number value => .number value
  | .string value => .string value
  | .array items => .array (ofItems items) .closed
  | .object members => .object (ofMembers members) .closed

def ofItems : List Json → List Draft
  | [] => []
  | item :: items => ofJson item :: ofItems items

def ofMembers : List (String × Json) → List (Except TextFault String × Draft)
  | [] => []
  | (key, value) :: members => (.ok key, ofJson value) :: ofMembers members

end

/-! ## Reading and passing over -/

def readKey (key : Except TextFault String) : Except ReadError String :=
  key.mapError TextFault.error

mutual

/-- The value of a draft, with repeated keys kept, or its first fault. -/
def read : Draft → Except ReadError Json
  | .fault cause => .error cause.reading
  | .null => .ok .null
  | .bool value => .ok (.bool value)
  | .number value => .ok (.number value)
  | .string value => .ok (.string value)
  | .array items ending => do
      let items ← readItems items
      ending.reading
      return .array items
  | .object members ending => do
      let members ← readMembers members
      ending.reading
      return .object members
  | .tooDeep _ => .error (.malformed .nestedTooDeep)

def readItems : List Draft → Except ReadError (List Json)
  | [] => .ok []
  | item :: items => do
      let item ← read item
      let items ← readItems items
      return item :: items

def readMembers : List (Except TextFault String × Draft) →
    Except ReadError (List (String × Json))
  | [] => .ok []
  | (key, value) :: members => do
      let key ← readKey key
      let value ← read value
      let members ← readMembers members
      return (key, value) :: members

end

/-- The value of a draft, with every repeated key set once, or its first fault. -/
def value (draft : Draft) : Except ReadError Json :=
  draft.read.map Json.distinct

mutual

def skip : Draft → Except ReadError Unit
  | .fault cause =>
      match cause.skipping with
      | some error => .error error
      | none => .ok ()
  | .array items ending => do
      skipItems items
      ending.skipping
  | .object members ending => do
      skipMembers members
      ending.skipping
  | .tooDeep contents => skip contents
  | _ => .ok ()

def skipItems : List Draft → Except ReadError Unit
  | [] => .ok ()
  | item :: items => do
      skip item
      skipItems items

def skipMembers : List (Except TextFault String × Draft) → Except ReadError Unit
  | [] => .ok ()
  | (_, value) :: members => do
      skip value
      skipMembers members

end

/-- The kind of what a draft holds, told without going into containers. -/
def found : Draft → Except ReadError Found
  | .fault cause => .error cause.reading
  | .null => .ok .null
  | .bool value => .ok (.bool value)
  | .number value => .ok (.of (.number value))
  | .string value => .ok (.string value)
  | .array _ _ => .ok .sequence
  | .object _ _ => .ok .map
  | .tooDeep _ => .error (.malformed .nestedTooDeep)

end Draft

end QueryCompiler.Json
