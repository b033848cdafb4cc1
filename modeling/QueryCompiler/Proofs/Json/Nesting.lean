import QueryCompiler.Json.Reader
import QueryCompiler.Proofs.Json.WellFormed

/-!
# Nesting of values

How deep lists and objects are nested in a value, and what a reader with a limit makes
of it: `Draft.limited` is the draft of the value with every container that stands too
deep marked as such.  A value that keeps the limit is read as it is
(`Draft.limited_eq_ofJson`), and one that does not is refused
(`Draft.read_limited_of_lt_depth`).
-/

namespace QueryCompiler.Json

mutual

/-- How many lists and objects are nested within each other in a value. -/
def depth : Json → Nat
  | .array items => depthOfItems items + 1
  | .object members => depthOfMembers members + 1
  | _ => 0

def depthOfItems : List Json → Nat
  | [] => 0
  | item :: items => max (depth item) (depthOfItems items)

def depthOfMembers : List (String × Json) → Nat
  | [] => 0
  | (_, value) :: members => max (depth value) (depthOfMembers members)

end

theorem lt_depthOfItems_cons {limit : Nat} {item : Json} {items : List Json} :
    limit < depthOfItems (item :: items) ↔ limit < item.depth ∨ limit < depthOfItems items := by
  rw [depthOfItems]
  omega

theorem lt_depthOfMembers_cons {limit : Nat} {member : String × Json}
    {members : List (String × Json)} :
    limit < depthOfMembers (member :: members) ↔
      limit < member.2.depth ∨ limit < depthOfMembers members := by
  rw [depthOfMembers]
  omega

mutual

/-- The draft of a value of which at most `limit` containers may be nested. -/
def Draft.limited (limit : Nat) : Json → Draft
  | .array items => limitDepth limit (.array (limitedItems (limit - 1) items) .closed)
  | .object members => limitDepth limit (.object (limitedMembers (limit - 1) members) .closed)
  | .null => .null
  | .bool value => .bool value
  | .number value => .number value
  | .string value => .string value

def Draft.limitedItems (limit : Nat) : List Json → List Draft
  | [] => []
  | item :: items => Draft.limited limit item :: Draft.limitedItems limit items

def Draft.limitedMembers (limit : Nat) :
    List (String × Json) → List (Except TextFault String × Draft)
  | [] => []
  | (key, value) :: members =>
      (.ok key, Draft.limited limit value) :: Draft.limitedMembers limit members

end

/-! ## Keeping to the limit -/

namespace Draft

mutual

/-- A value that keeps the limit is read as it stands, draft by draft. -/
theorem limited_eq_ofJson :
    ∀ {value : Json} {limit : Nat}, value.depth ≤ limit → limited limit value = ofJson value
  | .array items, limit, kept => by
      rw [depth] at kept
      obtain ⟨limit, rfl⟩ : ∃ less, limit = less + 1 := ⟨limit - 1, by omega⟩
      rw [limited, limitDepth, if_neg (Nat.succ_ne_zero limit), Nat.add_sub_cancel,
        limitedItems_eq_ofItems (Nat.le_of_succ_le_succ kept), ofJson]
  | .object members, limit, kept => by
      rw [depth] at kept
      obtain ⟨limit, rfl⟩ : ∃ less, limit = less + 1 := ⟨limit - 1, by omega⟩
      rw [limited, limitDepth, if_neg (Nat.succ_ne_zero limit), Nat.add_sub_cancel,
        limitedMembers_eq_ofMembers (Nat.le_of_succ_le_succ kept), ofJson]
  | .null, _, _ => rfl
  | .bool _, _, _ => rfl
  | .number _, _, _ => rfl
  | .string _, _, _ => rfl

private theorem limitedItems_eq_ofItems :
    ∀ {items : List Json} {limit : Nat}, depthOfItems items ≤ limit →
      limitedItems limit items = ofItems items
  | [], _, _ => rfl
  | item :: items, limit, kept => by
      rw [depthOfItems, Nat.max_le] at kept
      rw [limitedItems, limited_eq_ofJson kept.1, limitedItems_eq_ofItems kept.2, ofItems]

private theorem limitedMembers_eq_ofMembers :
    ∀ {members : List (String × Json)} {limit : Nat}, depthOfMembers members ≤ limit →
      limitedMembers limit members = ofMembers members
  | [], _, _ => rfl
  | (key, value) :: members, limit, kept => by
      rw [depthOfMembers, Nat.max_le] at kept
      rw [limitedMembers, limited_eq_ofJson kept.1, limitedMembers_eq_ofMembers kept.2, ofMembers]

end

mutual

/-- A value that goes beyond the limit is not read. -/
theorem read_limited_of_lt_depth :
    ∀ {value : Json} {limit : Nat}, limit < value.depth →
      (limited limit value).read = .error (.malformed .nestedTooDeep)
  | .array items, 0, _ => rfl
  | .array items, limit + 1, deep => by
      rw [depth] at deep
      rw [limited, limitDepth, if_neg (Nat.succ_ne_zero limit), Nat.add_sub_cancel, read,
        readItems_limited_of_lt_depth (Nat.lt_of_succ_lt_succ deep)]
      rfl
  | .object members, 0, _ => rfl
  | .object members, limit + 1, deep => by
      rw [depth] at deep
      rw [limited, limitDepth, if_neg (Nat.succ_ne_zero limit), Nat.add_sub_cancel, read,
        readMembers_limited_of_lt_depth (Nat.lt_of_succ_lt_succ deep)]
      rfl

private theorem readItems_limited_of_lt_depth :
    ∀ {items : List Json} {limit : Nat}, limit < depthOfItems items →
      readItems (limitedItems limit items) = .error (.malformed .nestedTooDeep)
  | item :: items, limit, deep => by
      rw [limitedItems, readItems]
      by_cases first : limit < item.depth
      · rw [read_limited_of_lt_depth first]
        rfl
      · have later := (lt_depthOfItems_cons.mp deep).resolve_left first
        have rest := readItems_limited_of_lt_depth later
        rw [limited_eq_ofJson (Nat.le_of_not_lt first), read_ofJson, Outcome.ok_bind, rest]
        rfl

private theorem readMembers_limited_of_lt_depth :
    ∀ {members : List (String × Json)} {limit : Nat}, limit < depthOfMembers members →
      readMembers (limitedMembers limit members) = .error (.malformed .nestedTooDeep)
  | (key, value) :: members, limit, deep => by
      rw [limitedMembers, readMembers, readKey_ok, Outcome.ok_bind]
      by_cases first : limit < value.depth
      · rw [read_limited_of_lt_depth first]
        rfl
      · have later := (lt_depthOfMembers_cons.mp deep).resolve_left first
        have rest := readMembers_limited_of_lt_depth later
        rw [limited_eq_ofJson (Nat.le_of_not_lt first), read_ofJson, Outcome.ok_bind, rest]
        rfl

end

end Draft

end QueryCompiler.Json
