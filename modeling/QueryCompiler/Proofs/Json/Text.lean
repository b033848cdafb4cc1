import QueryCompiler.Json.Printer

/-!
# The shape of compact texts

A writer only puts characters in front of the text that follows, and the text of an
object is that of its members, separated by commas, between braces.
-/

namespace QueryCompiler.Json

private theorem writeString_append (value : String) (text rest : List Char) :
    writeString value (text ++ rest) = writeString value text ++ rest := by
  simp only [writeString, List.cons_append, List.append_assoc]

private theorem writeBool_append (value : Bool) (text rest : List Char) :
    writeBool value (text ++ rest) = writeBool value text ++ rest := by
  cases value <;> rfl

mutual

/-- What follows a value is left alone. -/
theorem write_append :
    ∀ (value : Json) (text rest : List Char), write value (text ++ rest) = write value text ++ rest
  | .null, _, _ => rfl
  | .bool value, text, rest => writeBool_append value text rest
  | .number value, text, rest => (List.append_assoc value.text text rest).symm
  | .string value, text, rest => writeString_append value text rest
  | .array [], _, _ => rfl
  | .array (item :: items), text, rest => by
      simp only [write]
      rw [← List.cons_append, writeItems_append items, write_append item]
      rfl
  | .object [], _, _ => rfl
  | .object ((key, value) :: members), text, rest => by
      simp only [write]
      rw [← List.cons_append, writeMembers_append members, write_append value,
        ← List.cons_append, writeString_append]
      rfl

private theorem writeItems_append :
    ∀ (items : List Json) (text rest : List Char),
      writeItems items (text ++ rest) = writeItems items text ++ rest
  | [], _, _ => rfl
  | item :: items, text, rest => by
      simp only [writeItems]
      rw [writeItems_append items, write_append item]
      rfl

private theorem writeMembers_append :
    ∀ (members : Members) (text rest : List Char),
      writeMembers members (text ++ rest) = writeMembers members text ++ rest
  | [], _, _ => rfl
  | (key, value) :: members, text, rest => by
      simp only [writeMembers]
      rw [writeMembers_append members, write_append value, ← List.cons_append,
        writeString_append]
      rfl

end

def memberText (member : String × Json) : List Char :=
  writeString member.1 (':' :: write member.2 [])

private theorem writeString_member (key : String) (value : Json) (rest : List Char) :
    writeString key (':' :: write value rest) = memberText (key, value) ++ rest := by
  rw [memberText, ← writeString_append, List.cons_append, ← write_append, List.nil_append]

/-- The members after the first one stand behind commas. -/
theorem intercalate_memberText (member : String × Json) (members : Members) (rest : List Char) :
    [','].intercalate ((member :: members).map memberText) ++ rest =
      memberText member ++ writeMembers members rest := by
  induction members generalizing member with
  | nil => simp only [List.map_cons, List.map_nil, List.intercalate_singleton, writeMembers]
  | cons next members inductionHypothesis =>
      obtain ⟨key, value⟩ := next
      rw [List.map_cons, List.map_cons, List.intercalate_cons_cons, ← List.map_cons,
        List.append_assoc, List.append_assoc, inductionHypothesis, writeMembers,
        writeString_member]
      rfl

/-- The text of an object. -/
theorem toList_compact_object (members : Members) :
    (compact (.object members)).toList =
      '{' :: ([','].intercalate (members.map memberText) ++ ['}']) := by
  rw [compact, String.toList_ofList]
  match members with
  | [] => rfl
  | (key, value) :: members =>
      rw [write, writeString_member, intercalate_memberText]

end QueryCompiler.Json
