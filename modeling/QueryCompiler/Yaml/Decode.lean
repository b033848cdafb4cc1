import QueryCompiler.Yaml.Document

/-!
# Decoding YAML nodes

A text takes any scalar.  Lists and maps may be missing; a null that is written
out is neither.  There are no reasons for a failure.

Decoding follows aliases, but only so many of them.
-/

namespace QueryCompiler.Yaml

/-- Decoding with the anchored nodes at hand.  The state is the number of aliases
that may still be followed. -/
abbrev Decoding (α : Type) := ReaderT (List (Nat × NumberedNode)) (StateT Nat Option) α

abbrev Decoder (α : Type) := NumberedNode → Decoding α

namespace Decode

/-! ## Aliases -/

def bare : NumberedNode → NumberedNode
  | .anchored _ node => node
  | node => node

/-- The node that an alias refers to; any other node itself. -/
def follow (node : NumberedNode) : Decoding NumberedNode :=
  match bare node with
  | .alias number => do
      let left ← get
      if left = 0 then failure
      set (left - 1)
      match (← read).lookup number with
      | some node => return bare node
      | none => failure
  | node => return node

/-! ## Single values -/

def nullWords : List String := ["~", "null", "Null", "NULL"]

def nullTag : String := "tag:yaml.org,2002:null"

def boolTag : String := "tag:yaml.org,2002:bool"

def string : Decoder String := fun node => do
  match ← follow node with
  | .scalar text _ _ => return text
  | _ => failure

/-- Whether a scalar may be a truth value: it is plain, or literal with the tag of
truth values. -/
def mayBeBool (style : Style) (tag : Option String) : Bool :=
  style = .plain || (style = .literal && tag == some boolTag)

def bool : Decoder Bool := fun node => do
  match ← follow node with
  | .scalar text style tag =>
      if !mayBeBool style tag then failure
      else if ["true", "True", "TRUE"].contains text then return true
      else if ["false", "False", "FALSE"].contains text then return false
      else failure
  | _ => failure

/-- Whether a node is missing or null, if that can be told.  The tag of null goes
with a word for null only, and no other tag goes with null. -/
def isAbsent? : NumberedNode → Option Bool
  | .scalar text .plain none => some (text.isEmpty || nullWords.contains text)
  | .scalar text .plain (some tag) =>
      if tag != nullTag then some false
      else if nullWords.contains text then some true
      else none
  | _ => some false

def option {α : Type} (decode : Decoder α) : Decoder (Option α) := fun node => do
  let node ← follow node
  match isAbsent? node with
  | none => failure
  | some true => return none
  | some false => return some (← decode node)

/-! ## Collections -/

def isMissing : NumberedNode → Bool
  | .scalar text .plain _ => text.isEmpty
  | _ => false

def list {α : Type} (decode : Decoder α) : Decoder (List α) := fun node => do
  match ← follow node with
  | .list items => items.mapM decode
  | node => if isMissing node then return [] else failure

def pairs : Decoder (List (NumberedNode × NumberedNode)) := fun node => do
  match ← follow node with
  | .map pairs => return pairs
  | node => if isMissing node then return [] else failure

/-- A map with values of one type, as the list of its pairs. -/
def map {α : Type} (decode : Decoder α) : Decoder (List (String × α)) := fun node => do
  (← pairs node).mapM fun pair => do return (← string pair.1, ← decode pair.2)

/-! ## Records -/

/-- How the fields of a record are set: nothing for a key that is no field, and
otherwise the decoder of the record with that field. -/
abbrev FieldSetter (σ : Type) := String → σ → Option (Decoder σ)

/-- Set the fields of a record from pairs in order.  No field may come twice; other
keys are passed over with their values. -/
def setFields {σ : Type} (set : FieldSetter σ) (seen : List String) (partly : σ) :
    List (NumberedNode × NumberedNode) → Decoding σ
  | [] => return partly
  | (key, value) :: pairs => do
      let key ← string key
      match set key partly with
      | none => setFields set seen partly pairs
      | some decode =>
          if seen.contains key then failure
          setFields set (key :: seen) (← decode value) pairs

def record {σ : Type} (set : FieldSetter σ) (empty : σ) : Decoder σ := fun node => do
  setFields set [] empty (← pairs node)

end Decode

def Document.decode? {α : Type} (decode : Decoder α) (document : Document) : Option α :=
  ((decode document.root).run document.anchors).run' document.aliasLimit

end QueryCompiler.Yaml
