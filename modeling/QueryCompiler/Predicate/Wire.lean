import QueryCompiler.Json.Decode
import QueryCompiler.Predicate.Basic

/-!
# Predicates as JSON

A predicate is written as an object whose `type` names its form.  It is read
from such an object, with its keys in any order, or from a list that begins with
the name of the form.

The form may come after the fields, so these are held back until it is known.
Within them predicates are decoded from plain values (`Predicate.ofContent`).
-/

namespace QueryCompiler

open Json

def Comparison.variants : List (String × Comparison) :=
  [("eq", .eq), ("ne", .ne), ("gt", .gt), ("gte", .gte), ("lt", .lt), ("lte", .lte),
    ("in", .isIn), ("not_in", .notIn), ("like", .like), ("not_like", .notLike),
    ("i_like", .iLike), ("is", .is), ("is_not", .isNot), ("between", .between),
    ("not_between", .notBetween)]

def Comparison.name : Comparison → String
  | .eq => "eq"
  | .ne => "ne"
  | .gt => "gt"
  | .gte => "gte"
  | .lt => "lt"
  | .lte => "lte"
  | .isIn => "in"
  | .notIn => "not_in"
  | .like => "like"
  | .notLike => "not_like"
  | .iLike => "i_like"
  | .is => "is"
  | .isNot => "is_not"
  | .between => "between"
  | .notBetween => "not_between"

/-- A comparison is found under its name. -/
theorem Comparison.lookup_variants_name (comparison : Comparison) :
    variants.lookup comparison.name = some comparison := by
  cases comparison <;> decide

namespace Predicate

/-! ## Writing -/

mutual

def toJson : Predicate → Json
  | .always => .object [("type", .string "true")]
  | .all operands =>
      .object [("type", .string "and"), ("operands", .array (toJsonItems operands))]
  | .any operands =>
      .object [("type", .string "or"), ("operands", .array (toJsonItems operands))]
  | .negation operand => .object [("type", .string "not"), ("operand", toJson operand)]
  | .compare field comparison value =>
      .object [("type", .string "compare"), ("field", .string field),
        ("op", .string comparison.name), ("value", value)]

def toJsonItems : List Predicate → List Json
  | [] => []
  | operand :: operands => toJson operand :: toJsonItems operands

end

/-! ## Forms -/

inductive Form where
  | always
  | all
  | any
  | negation
  | compare
  deriving DecidableEq, Repr

namespace Form

def variants : List (String × Form) :=
  [("true", .always), ("and", .all), ("or", .any), ("not", .negation), ("compare", .compare)]

/-- The name of a form.  In a buffered value the place of the form among all
forms will do as well. -/
def decode (source : Source) : Decoder Form
  | .string name => findVariant variants name
  | .number (.natural place) =>
      if source = .buffered then
        match variants[place.toNat]? with
        | some (_, form) => .ok form
        | none =>
            .error (.mismatch (.wrongValue (.integer place.toNat)
              (.variantIndex variants.length)))
      else
        wrongType .variantIdentifier (.number (.natural place))
  | other => wrongType .variantIdentifier other

/-- A predicate form with its fields in order, as it is called in errors. -/
def listName : Form → String
  | .always => "variant Predicate::True"
  | .all => "variant Predicate::And"
  | .any => "variant Predicate::Or"
  | .negation => "variant Predicate::Not"
  | .compare => "variant Predicate::Compare"

def fieldCount : Form → Nat
  | .always => 0
  | .all => 1
  | .any => 1
  | .negation => 1
  | .compare => 3

end Form

/-! ## Fields -/

structure Fields where
  operands : Option (List Predicate)
  operand : Option Predicate
  field : Option String
  comparison : Option Comparison
  value : Option Json

def Fields.empty : Fields := ⟨none, none, none, none, none⟩

/-- The predicate of a form with given fields, or the first missing one. -/
def Fields.finish (fields : Fields) : Form → Except String Predicate
  | .always => .ok .always
  | .all => (required "operands" fields.operands).map .all
  | .any => (required "operands" fields.operands).map .any
  | .negation => (required "operand" fields.operand).map .negation
  | .compare => do
      let field ← required "field" fields.field
      let comparison ← required "op" fields.comparison
      let value ← required "value" fields.value
      return .compare field comparison value

def decodeComparison (value : Json) : Except ReadError Comparison :=
  decodeVariant .buffered Comparison.variants (Draft.ofJson value)

/-- Keep the value of a field that may come once only. -/
def setOnce {α : Type} (name : String) (before : Option α) (value : Except ReadError α) :
    Except ReadError (Option α) :=
  if before.isSome then .error (.mismatch (.duplicateField name)) else value.map some

/-- The form among members, with `seen` as the form met before them. -/
def formOfMembers (seen : Option Form) :
    List (String × Json) → Except ReadError (Option Form)
  | [] => .ok seen
  | (key, value) :: members =>
      if key = "type" then do
        let form ← setOnce "type" seen (Form.decode .buffered (Draft.ofJson value))
        formOfMembers form members
      else
        formOfMembers seen members

/-- The predicate of a form, or the error for its first missing field. -/
def finishMembers (form : Form) (fields : Fields) : Except ReadError Predicate :=
  (fields.finish form).mapError fun field => .mismatch (.missingField field)

/-- The predicate of a form from the list of its fields, or the error for their
number. -/
def finishItems (form : Form) (length : Nat) (fields : Fields) : Except ReadError Predicate := do
  let predicate ← (fields.finish form).mapError fun _ =>
    .mismatch (.wrongLength length (.ofRecord form.listName form.fieldCount))
  if length ≤ form.fieldCount then
    return predicate
  else
    throw (.mismatch (.wrongLength length (.inSequence form.fieldCount)))

/-! ## Reading from buffered values -/

mutual

def ofContent : Json → Except ReadError Predicate
  | .object members => do
      match ← formOfMembers none members with
      | some form => setMembers form .empty members
      | none => throw (.mismatch (.missingField "type"))
  | .array [] => .error (.mismatch (.missingField "type"))
  | .array (first :: items) => do
      let form ← Form.decode .buffered (Draft.ofJson first)
      setItems form items
  | other => wrongType .taggedPredicate (Draft.ofJson other)

def listOfContent : Json → Except ReadError (List Predicate)
  | .array items => itemsOfContent items
  | other => wrongType .sequence (Draft.ofJson other)

def itemsOfContent : List Json → Except ReadError (List Predicate)
  | [] => .ok []
  | item :: items => do
      let operand ← ofContent item
      let operands ← itemsOfContent items
      return operand :: operands

/-- A predicate of a form from its fields as members.  Keys that are no field of
the form are passed over. -/
def setMembers (form : Form) (fields : Fields) : List (String × Json) →
    Except ReadError Predicate
  | [] => finishMembers form fields
  | (key, value) :: members =>
      match form with
      | .always => setMembers form fields members
      | .all | .any =>
          if key = "operands" then do
            let operands ← setOnce key fields.operands (listOfContent value)
            setMembers form { fields with operands := operands } members
          else
            setMembers form fields members
      | .negation =>
          if key = "operand" then do
            let operand ← setOnce key fields.operand (ofContent value)
            setMembers form { fields with operand := operand } members
          else
            setMembers form fields members
      | .compare =>
          if key = "field" then do
            let field ← setOnce key fields.field (decodeString (Draft.ofJson value))
            setMembers form { fields with field := field } members
          else if key = "op" then do
            let comparison ← setOnce key fields.comparison (decodeComparison value)
            setMembers form { fields with comparison := comparison } members
          else if key = "value" then do
            let value ← setOnce key fields.value (.ok value.distinct)
            setMembers form { fields with value := value } members
          else
            setMembers form fields members

def setItems (form : Form) (items : List Json) : Except ReadError Predicate :=
  match form, items with
  | .all, operands :: _ | .any, operands :: _ => do
      let operands ← listOfContent operands
      finishItems form items.length { Fields.empty with operands := some operands }
  | .negation, operand :: _ => do
      let operand ← ofContent operand
      finishItems form items.length { Fields.empty with operand := some operand }
  | .compare, [field] => do
      let field ← decodeString (Draft.ofJson field)
      finishItems form 1 { Fields.empty with field := some field }
  | .compare, [field, comparison] => do
      let field ← decodeString (Draft.ofJson field)
      let comparison ← decodeComparison comparison
      finishItems form 2
        { Fields.empty with field := some field, comparison := some comparison }
  | .compare, field :: comparison :: value :: _ => do
      let field ← decodeString (Draft.ofJson field)
      let comparison ← decodeComparison comparison
      finishItems form items.length
        { Fields.empty with
          field := some field, comparison := some comparison, value := some value.distinct }
  | _, _ => finishItems form items.length .empty

end

/-! ## Reading from drafts -/

/-- The form among members and the other members, which are held back. -/
def holdMembers (source : Source) (seen : Option Form) :
    List (Except TextFault String × Draft) →
    Except ReadError (Option Form × List (String × Json))
  | [] => .ok (seen, [])
  | (key, draft) :: members => do
      let key ← Draft.readKey key
      if key = "type" then
        let form ← setOnce "type" seen (Form.decode source draft)
        holdMembers source form members
      else
        let value ← draft.read
        let (form, held) ← holdMembers source seen members
        return (form, (key, value) :: held)

def decode (source : Source) : Decoder Predicate
  | .object members ending => do
      let (form, held) ← holdMembers source none members
      ending.reading
      match form with
      | some form => setMembers form .empty held
      | none => throw (.mismatch (.missingField "type"))
  | .array [] ending => do
      ending.reading
      throw (.mismatch (.missingField "type"))
  | .array (first :: items) ending => do
      let form ← Form.decode source first
      let items ← Draft.readItems items
      ending.reading
      setItems form items
  | other => wrongType .taggedPredicate other

end Predicate

end QueryCompiler
