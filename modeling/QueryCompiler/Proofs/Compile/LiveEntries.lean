import QueryCompiler.Proofs.Compile.Resolution

/-!
# Live entries

An entry is live if none of the entries around it is dropped.  `liveEntries` lists the live
entries in document order, each one before the entries within it.
-/

namespace QueryCompiler

/-! ## Kept entries -/

def isDropped (catalog : Catalog) (entry : ExpandEntry) : Bool :=
  (dropDiagnostic? catalog entry).isSome

/-- The entries of one level that are not dropped. -/
def keptEntries (catalog : Catalog) (entries : List ExpandEntry) : List ExpandEntry :=
  entries.filter fun entry => !isDropped catalog entry

theorem keptEntries_cons_of_kept {catalog : Catalog} {entry : ExpandEntry}
    {entries : List ExpandEntry} (kept : dropDiagnostic? catalog entry = none) :
    keptEntries catalog (entry :: entries) = entry :: keptEntries catalog entries := by
  simp [keptEntries, isDropped, kept]

theorem keptEntries_cons_of_dropped {catalog : Catalog} {entry : ExpandEntry}
    {entries : List ExpandEntry} {diagnostic : Diagnostic}
    (dropped : dropDiagnostic? catalog entry = some diagnostic) :
    keptEntries catalog (entry :: entries) = keptEntries catalog entries := by
  simp [keptEntries, isDropped, dropped]

/-! ## Live entries -/

mutual

/-- An entry and the live entries within it. -/
def liveWithin (catalog : Catalog) : ExpandEntry → List ExpandEntry
  | .name association => [.name association]
  | .invalid raw => [.invalid raw]
  | .request request nested =>
      .request request nested ::
        if isDropped catalog (.request request nested) then [] else liveEntries catalog nested

/-- The live entries in document order. -/
def liveEntries (catalog : Catalog) : List ExpandEntry → List ExpandEntry
  | [] => []
  | entry :: entries => liveWithin catalog entry ++ liveEntries catalog entries

end

theorem liveWithin_of_dropped {catalog : Catalog} {entry : ExpandEntry}
    (dropped : isDropped catalog entry = true) : liveWithin catalog entry = [entry] := by
  cases entry with
  | name association => rfl
  | invalid raw => rfl
  | request request nested => rw [liveWithin, if_pos dropped]

theorem liveWithin_of_kept {catalog : Catalog} {request : ExpandRequest}
    {nested : List ExpandEntry} (kept : isDropped catalog (.request request nested) = false) :
    liveWithin catalog (.request request nested) =
      .request request nested :: liveEntries catalog nested := by
  rw [liveWithin, kept]
  rfl

theorem liveEntries_cons_of_dropped {catalog : Catalog} {entry : ExpandEntry}
    {entries : List ExpandEntry} {diagnostic : Diagnostic}
    (dropped : dropDiagnostic? catalog entry = some diagnostic) :
    liveEntries catalog (entry :: entries) = entry :: liveEntries catalog entries := by
  have found : isDropped catalog entry = true := by simp [isDropped, dropped]
  rw [liveEntries, liveWithin_of_dropped found, List.singleton_append]

theorem liveEntries_cons_of_kept {catalog : Catalog} {request : ExpandRequest}
    {nested entries : List ExpandEntry}
    (kept : dropDiagnostic? catalog (.request request nested) = none) :
    liveEntries catalog (.request request nested :: entries) =
      .request request nested :: (liveEntries catalog nested ++ liveEntries catalog entries) := by
  have found : isDropped catalog (.request request nested) = false := by simp [isDropped, kept]
  rw [liveEntries, liveWithin_of_kept found, List.cons_append]

mutual

private theorem mem_liveWithin_of_nested {catalog : Catalog} {request : ExpandRequest}
    {nested : List ExpandEntry} {inner : ExpandEntry}
    (kept : isDropped catalog (.request request nested) = false)
    (member : inner ∈ liveEntries catalog nested) :
    ∀ {entry : ExpandEntry}, .request request nested ∈ liveWithin catalog entry →
      inner ∈ liveWithin catalog entry
  | .name _, live => by simp [liveWithin] at live
  | .invalid _, live => by simp [liveWithin] at live
  | .request other others, live => by
      rw [liveWithin] at live ⊢
      rcases List.mem_cons.mp live with same | within
      · cases same
        rw [if_neg (Bool.eq_false_iff.mp kept)]
        exact List.mem_cons_of_mem _ member
      · by_cases dropped : isDropped catalog (.request other others) = true
        · simp [dropped] at within
        · rw [if_neg dropped] at within ⊢
          exact List.mem_cons_of_mem _ (mem_liveEntries_of_nested kept member within)

/-- What is live within a live entry that is kept is live. -/
theorem mem_liveEntries_of_nested {catalog : Catalog} {request : ExpandRequest}
    {nested : List ExpandEntry} {inner : ExpandEntry}
    (kept : isDropped catalog (.request request nested) = false)
    (member : inner ∈ liveEntries catalog nested) :
    ∀ {entries : List ExpandEntry}, .request request nested ∈ liveEntries catalog entries →
      inner ∈ liveEntries catalog entries
  | [], live => by simp [liveEntries] at live
  | entry :: entries, live => by
      rw [liveEntries] at live ⊢
      rcases List.mem_append.mp live with first | rest
      · exact List.mem_append_left _ (mem_liveWithin_of_nested kept member first)
      · exact List.mem_append_right _ (mem_liveEntries_of_nested kept member rest)

end

end QueryCompiler
