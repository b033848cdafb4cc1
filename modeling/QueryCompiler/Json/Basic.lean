import QueryCompiler.Json.Number

/-!
# JSON values

Objects are lists of members in their order.  A value read from a text or built
by this library has no key twice in one object; `distinct` brings any value
into that form.
-/

namespace QueryCompiler

inductive Json where
  | null
  | bool (value : Bool)
  | number (value : Json.Number)
  | string (value : String)
  | array (items : List Json)
  | object (members : List (String × Json))
  deriving Inhabited

namespace Json

abbrev Members := List (String × Json)

/-- Set a key: in its place if the list has it, else at the end. -/
def setMember {α : Type} (key : String) (value : α) : List (String × α) → List (String × α)
  | [] => [(key, value)]
  | (other, found) :: rest =>
      if other = key then (key, value) :: rest else (other, found) :: setMember key value rest

/-- Set keys one after another, so that a repeated key stays at its first place
and takes its last value. -/
def distinctMembers {α : Type} (pairs : List (String × α)) : List (String × α) :=
  pairs.foldl (fun members pair => setMember pair.1 pair.2 members) []

/-- A key that was set has its new value, and every other key its old one. -/
theorem lookup_setMember {α : Type} (key : String) (value : α) (members : List (String × α))
    (other : String) :
    (setMember key value members).lookup other =
      if other = key then some value else members.lookup other := by
  induction members with
  | nil =>
      by_cases same : other = key
      · simp [setMember, same]
      · simp [setMember, same, List.lookup_cons]
        grind
  | cons member rest inductionHypothesis =>
      grind [setMember]

/-- Setting a key adds it to the keys unless it is there. -/
theorem mem_keys_setMember {α : Type} (key : String) (value : α)
    (members : List (String × α)) (other : String) :
    other ∈ (setMember key value members).map Prod.fst ↔
      other = key ∨ other ∈ members.map Prod.fst := by
  induction members with
  | nil => simp [setMember]
  | cons member rest inductionHypothesis => grind [setMember]

/-- Setting a key repeats none. -/
theorem nodup_keys_setMember {α : Type} (key : String) (value : α)
    {members : List (String × α)} (nodup : (members.map Prod.fst).Nodup) :
    ((setMember key value members).map Prod.fst).Nodup := by
  induction members with
  | nil => simp [setMember]
  | cons member rest inductionHypothesis => grind [setMember, mem_keys_setMember]

/-- No key comes twice among distinct members. -/
theorem nodup_keys_distinctMembers {α : Type} (pairs : List (String × α)) :
    ((distinctMembers pairs).map Prod.fst).Nodup := by
  suffices general : ∀ members : List (String × α), (members.map Prod.fst).Nodup →
      ((pairs.foldl (fun members pair => setMember pair.1 pair.2 members) members).map
        Prod.fst).Nodup from general [] List.nodup_nil
  induction pairs with
  | nil => exact fun _ nodup => nodup
  | cons pair pairs inductionHypothesis =>
      exact fun _ nodup => inductionHypothesis _ (nodup_keys_setMember _ _ nodup)

mutual

/-- The same value with every repeated key set once. -/
def distinct : Json → Json
  | .array items => .array (distinctItems items)
  | .object members => .object (distinctMembers (distinctValues members))
  | other => other

def distinctItems : List Json → List Json
  | [] => []
  | item :: items => distinct item :: distinctItems items

def distinctValues : List (String × Json) → List (String × Json)
  | [] => []
  | (key, value) :: members => (key, distinct value) :: distinctValues members

end

/-! ## Views -/

def member? (key : String) : Json → Option Json
  | .object members => members.lookup key
  | _ => none

def bool? : Json → Option Bool
  | .bool value => some value
  | _ => none

def string? : Json → Option String
  | .string value => some value
  | _ => none

def isNull : Json → Bool
  | .null => true
  | _ => false

def nonNull? : Json → Option Json
  | .null => none
  | value => some value

def ofUInt64 (value : UInt64) : Json :=
  .number (.natural value)

def ofStrings (texts : List String) : Json :=
  .array (texts.map .string)

/-! ## Equality without regard to the order of keys -/

mutual

/-- Values are the same when they have one shape, with objects compared
without regard to the order of their keys. -/
def same : Json → Json → Bool
  | .null, .null => true
  | .bool left, .bool right => left == right
  | .number left, .number right => left.same right
  | .string left, .string right => left == right
  | .array left, .array right => sameItems left right
  | .object left, .object right =>
      left.length == right.length && sameMembers left right
  | _, _ => false

def sameItems : List Json → List Json → Bool
  | [], [] => true
  | left :: lefts, right :: rights => same left right && sameItems lefts rights
  | _, _ => false

/-- Whether each of the first members has the same value among the second. -/
def sameMembers : List (String × Json) → List (String × Json) → Bool
  | [], _ => true
  | (key, value) :: members, others =>
      (match others.lookup key with
        | some other => same value other
        | none => false) && sameMembers members others

end

end Json

end QueryCompiler
