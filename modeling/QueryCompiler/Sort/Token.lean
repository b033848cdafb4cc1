import QueryCompiler.Descriptor.Order
import QueryCompiler.Text.Blank
import QueryCompiler.Text.Place

/-!
# Sort tokens

A token names a column, or a relation and a column with a dot between them.
Signs and dollars at its ends are no part of the names; a minus in front asks for
the descending order.  Names beyond the second are accepted and ignored.

A token is read by a grammar that never goes back: a run of sigils, names with dots
between them, and a run of sigils.
-/

namespace QueryCompiler

structure SortToken where
  direction : Direction
  relation : Option String
  column : String
  deriving DecidableEq, Repr

inductive SortTokenError where
  | empty
  /-- A name is missing behind so many characters of the trimmed token. -/
  | missingName (token : List Char) (offset : Nat)
  deriving DecidableEq, Repr

def SortTokenError.message : SortTokenError → String
  | .empty => "Empty sort token"
  | .missingName token offset => "Pest error: " ++ Text.pointAt token offset "segment"

namespace SortToken

/-- The characters that may surround the names of a token. -/
def isSigil (character : Char) : Bool :=
  character == '-' || character == '$'

/-! ## Grammar

Each function reads one rule of the grammar from the front of a text, as much of it
as there is, and leaves what follows.
-/

/-- Whether no name goes on in front of a text: it begins with a dot, or only sigils
are left. -/
def endsName (text : List Char) : Bool :=
  text.head? == some '.' || (text.dropWhile isSigil).isEmpty

/-- The characters of a name, and what follows them.  Without any there is no name. -/
def readName : List Char → List Char × List Char
  | [] => ([], [])
  | character :: rest =>
      if endsName (character :: rest) then
        ([], character :: rest)
      else
        let (name, rest) := readName rest
        (character :: name, rest)

/-- A name is read from the front of a text. -/
theorem length_readName_le (text : List Char) : (readName text).2.length ≤ text.length := by
  induction text with
  | nil => exact Nat.le_refl _
  | cons character rest inductionHypothesis =>
      rw [readName]
      split
      · exact Nat.le_refl _
      · exact Nat.le_succ_of_le inductionHypothesis

/-- The names that follow, each behind a dot.  A dot without a name behind it is left. -/
def readFurtherNames : List Char → List (List Char) × List Char
  | '.' :: text =>
      let name := readName text
      if name.1.isEmpty then
        ([], '.' :: text)
      else
        let further := readFurtherNames name.2
        (name.1 :: further.1, further.2)
  | text => ([], text)
termination_by text => text.length
decreasing_by exact Nat.lt_succ_of_le (length_readName_le text)

/-- The leading sigils and the names of a token, or the furthest place that lacks a
name.  Only sigils may follow the names. -/
def readToken (token : List Char) : Except Nat (List Char × List (List Char)) :=
  let (lead, rest) := token.span isSigil
  match readName rest with
  | ([], _) => .error lead.length
  | (name, rest) =>
      let (names, rest) := readFurtherNames rest
      if (rest.dropWhile isSigil).isEmpty then
        .ok (lead, name :: names)
      else
        -- What is left begins with a dot, and a name was sought behind it.
        .error (token.length - rest.length + 1)

/-! ## Tokens -/

def directionOf : List Char → Direction
  | '-' :: _ => .descending
  | _ => .ascending

def parse (source : String) : Except SortTokenError SortToken :=
  let token := Text.trimBlank source.toList
  if token.isEmpty then
    .error .empty
  else
    match readToken token with
    | .error offset => .error (.missingName token offset)
    | .ok (lead, names) =>
        match names.take 2 with
        | [relation, column] =>
            .ok ⟨directionOf lead, some (String.ofList relation), String.ofList column⟩
        | [column] => .ok ⟨directionOf lead, none, String.ofList column⟩
        | _ => .error .empty

end SortToken

end QueryCompiler
