import Mathlib.Data.String.Basic
import QueryCompiler.Proofs.Json.Record
import QueryCompiler.Proofs.Relation.Registration

/-!
# Registry documents

The relations of a document are registered in increasing order of their keys, wherever they
stand in the text.  So the order in which relations with distinct keys are written is of no
account (`registerAll_stands_for_last`).  But a relation may have the key of another one among
its aliases, and takes it over if its own key comes later (`lookup_declared_unless_taken`).
-/

namespace QueryCompiler

open Json

namespace Registry

/-! ## Increasing order -/

section

variable {α : Type} {pairs : List (String × α)}

/-- The keys of some pairs increase. -/
def Ascending (pairs : List (String × α)) : Prop :=
  pairs.Pairwise fun left right => left.1 < right.1

private theorem mem_insertSorted {key : String} {value : α} {pair : String × α}
    (member : pair ∈ insertSorted key value pairs) : pair = (key, value) ∨ pair ∈ pairs := by
  induction pairs with
  | nil => exact .inl (List.mem_singleton.mp member)
  | cons head tail inductionHypothesis => grind [insertSorted]

private theorem Ascending.insertSorted (ascending : Ascending pairs) (key : String) (value : α) :
    Ascending (insertSorted key value pairs) := by
  induction pairs with
  | nil => exact List.pairwise_singleton _ _
  | cons head tail inductionHypothesis =>
      obtain ⟨first, rest⟩ := List.pairwise_cons.mp ascending
      rw [Registry.insertSorted]
      rcases lt_trichotomy key head.1 with less | same | greater
      · rw [if_pos less]
        refine List.pairwise_cons.mpr ⟨List.forall_mem_cons.mpr ⟨less, ?_⟩, ascending⟩
        exact fun pair member => less.trans (first pair member)
      · rw [if_neg (same ▸ lt_irrefl _), if_pos same]
        exact List.pairwise_cons.mpr ⟨same ▸ first, rest⟩
      · rw [if_neg greater.asymm, if_neg greater.ne']
        refine List.pairwise_cons.mpr ⟨fun pair member => ?_, inductionHypothesis rest⟩
        rcases mem_insertSorted member with rfl | old
        · exact greater
        · exact first pair old

private theorem ascending_sortPairs (pairs : List (String × α)) : Ascending (sortPairs pairs) := by
  suffices general : ∀ sorted : List (String × α), Ascending sorted →
      Ascending (pairs.foldl (fun sorted pair => insertSorted pair.1 pair.2 sorted) sorted) from
    general [] List.Pairwise.nil
  induction pairs with
  | nil => exact fun _ ascending => ascending
  | cons pair pairs inductionHypothesis =>
      exact fun _ ascending => inductionHypothesis _ (ascending.insertSorted pair.1 pair.2)

private theorem insertSorted_perm {key : String} (value : α) (fresh : key ∉ pairs.map Prod.fst) :
    (insertSorted key value pairs).Perm ((key, value) :: pairs) := by
  induction pairs with
  | nil => exact List.Perm.refl _
  | cons head tail inductionHypothesis =>
      obtain ⟨different, later⟩ := not_or.mp (mt List.mem_cons.mpr fresh)
      rw [insertSorted, if_neg different]
      split
      · exact List.Perm.refl _
      · exact ((inductionHypothesis later).cons head).trans (List.Perm.swap _ _ tail)

/-- Pairs with distinct keys are only put into another order. -/
theorem sortPairs_perm (nodup : (pairs.map Prod.fst).Nodup) : (sortPairs pairs).Perm pairs := by
  -- The keys stay distinct from those of the pairs that are in their places already.
  suffices general : ∀ sorted : List (String × α), ((pairs ++ sorted).map Prod.fst).Nodup →
      (pairs.foldl (fun sorted pair => insertSorted pair.1 pair.2 sorted) sorted).Perm
        (pairs ++ sorted) by
    have all := general [] (by rwa [List.append_nil])
    rwa [List.append_nil] at all
  clear nodup
  induction pairs with
  | nil => exact fun sorted _ => List.Perm.refl sorted
  | cons pair pairs inductionHypothesis =>
      intro sorted nodup
      have fresh : pair.1 ∉ sorted.map Prod.fst := by
        rw [List.cons_append, List.map_cons, List.map_append] at nodup
        exact fun member => (List.nodup_cons.mp nodup).1 (List.mem_append_right _ member)
      have inserted : (pairs ++ insertSorted pair.1 pair.2 sorted).Perm
          (pair :: pairs ++ sorted) :=
        ((insertSorted_perm pair.2 fresh).append_left pairs).trans List.perm_middle
      have distinct := (inserted.map Prod.fst).nodup_iff.mpr nodup
      exact (inductionHypothesis _ distinct).trans inserted

private theorem sortPairs_eq_of_perm {others : List (String × α)}
    (nodup : (pairs.map Prod.fst).Nodup)
    (perm : pairs.Perm others) : sortPairs pairs = sortPairs others := by
  have otherNodup : (others.map Prod.fst).Nodup := (perm.map Prod.fst).nodup_iff.mp nodup
  have same : (sortPairs pairs).Perm (sortPairs others) :=
    (sortPairs_perm nodup).trans (perm.trans (sortPairs_perm otherNodup).symm)
  refine List.Perm.eq_of_pairwise ?_ (ascending_sortPairs pairs) (ascending_sortPairs others) same
  exact fun _ _ _ _ less greater => absurd less greater.asymm

end

/-! ## Documents as they are written -/

/-- The fields of a registry document, with its relations in the order of the text. -/
def writtenShape (source : Source) : RecordShape Document Document where
  name := "RegistryFile"
  fields := ["version", "relations"]
  empty := ⟨none, []⟩
  set key draft partly :=
    match key with
    | "version" => do return { partly with version := ← decodeOption decodeString draft }
    | _ => do
        let pairs ← decodeMap (RelationDefinition.decode source) draft
        return { partly with relations := pairs }
  finish := .ok

/-- The document of a text, with its relations in the order of the text. -/
def written (text : String) : Except ReadError Document :=
  decodeText ((writtenShape .text).decode .text) text

/-- The document with its relations in increasing order of keys. -/
def Document.sorted (document : Document) : Document :=
  { document with relations := sortPairs document.relations }

private theorem views_sorted (source : Source) :
    (writtenShape source).Views (documentShape source) Document.sorted Document.sorted where
  name := rfl
  fields := rfl
  empty := rfl
  set key draft partly := by
    by_cases version : key = "version"
    · rw [version]
      exact Outcome.bind_eq_map_bind fun _ => rfl
    · simp only [writtenShape, documentShape]
      exact Outcome.bind_eq_map_bind fun _ => rfl
  finish _ := rfl

/-- A registry is read by sorting the relations that are written and registering them. -/
theorem ofJsonText_eq (text : String) :
    ofJsonText text = (written text).map fun document => ofDocument document.sorted := by
  unfold ofJsonText written decodeText decodeTextWithin
  dsimp only
  rw [(views_sorted .text).decode, Outcome.map_bind]
  cases (writtenShape .text).decode .text (readDocument nestingLimit text).1 with
  | error error => rfl
  | ok document =>
      simp only [Outcome.ok_bind]
      split
      · rfl
      · rfl

private theorem ofJsonText_of_written {text : String} {document : Document}
    (read : written text = .ok document) : ofJsonText text = .ok (ofDocument document.sorted) := by
  rw [ofJsonText_eq, read, Outcome.map_ok]

/-! ## The order of writing -/

private theorem entries_ofDocument_sorted_of_perm {document other : Document}
    (nodup : (document.relations.map Prod.fst).Nodup)
    (perm : document.relations.Perm other.relations) :
    (ofDocument document.sorted).entries = (ofDocument other.sorted).entries := by
  have same : document.sorted.relations = other.sorted.relations := sortPairs_eq_of_perm nodup perm
  have start : (empty (document.sorted.version.getD defaultVersion)).entries =
      (empty (other.sorted.version.getD defaultVersion)).entries := rfl
  rw [ofDocument, same]
  exact entries_registerAll_congr start other.sorted.relations

/-- After any registrations a name stands for the last relation that was registered with it,
and for what it stood for at the start if there is none; a registry contains the names with an
answer, and its size is their number.  Texts with the same relations, under distinct keys, give
the same answers in whatever order the relations are written. -/
theorem registerAll_stands_for_last (registry : Registry) (distinct : registry.Distinct)
    (relations : List (String × RelationDefinition)) :
    (∀ name last, LastNamed name last relations →
        (registry.registerAll relations).lookup name = some last.2.handle) ∧
      (∀ name, (∀ relation ∈ relations, ¬ HasName relation name) →
        (registry.registerAll relations).lookup name = registry.lookup name) ∧
      (∀ name, (registry.registerAll relations).contains name = true ↔
        ∃ handle, (registry.registerAll relations).lookup name = some handle) ∧
      {name | ∃ handle, (registry.registerAll relations).lookup name = some handle}.encard =
        (registry.registerAll relations).size ∧
      ∀ text other document otherDocument, written text = .ok document →
        written other = .ok otherDocument → (document.relations.map Prod.fst).Nodup →
        document.relations.Perm otherDocument.relations →
        ∃ loaded otherLoaded, ofJsonText text = .ok loaded ∧ ofJsonText other = .ok otherLoaded ∧
          ∀ name, loaded.lookup name = otherLoaded.lookup name := by
  refine ⟨fun _ _ last => lookup_registerAll_of_last registry last,
    fun _ unnamed => lookup_registerAll_of_unnamed registry unnamed,
    fun _ => contains_iff, (distinct.registerAll relations).encard_answered, ?_⟩
  intro text other document otherDocument read otherRead nodup perm
  refine ⟨_, _, ofJsonText_of_written read, ofJsonText_of_written otherRead, fun name => ?_⟩
  rw [lookup, lookup, entries_ofDocument_sorted_of_perm nodup perm]

/-- A text in which two relations have the keys of each other among their aliases. -/
def crossedText : String :=
  "\x7b\"relations\":\x7b\"owner\":\x7b\"model\":\"User\",\"aliases\":[\"pictures\"]\x7d," ++
    "\"pictures\":\x7b\"model\":\"Picture\",\"aliases\":[\"owner\"]\x7d\x7d\x7d"

/-- The document of that text. -/
def crossedDocument : Document :=
  ⟨none, [("owner", ⟨"User", none, ["pictures"]⟩), ("pictures", ⟨"Picture", none, ["owner"]⟩)]⟩

private theorem written_crossedText : written crossedText = .ok crossedDocument := by
  cbv

/-- The same relations in the other order. -/
def crossedBackText : String :=
  "\x7b\"relations\":\x7b\"pictures\":\x7b\"model\":\"Picture\",\"aliases\":[\"owner\"]\x7d," ++
    "\"owner\":\x7b\"model\":\"User\",\"aliases\":[\"pictures\"]\x7d\x7d\x7d"

/-- Of three relations with one name the last answers for it, and a name that none of them
has keeps its answer. -/
theorem registerAll_stands_for_photos :
    let registry := (empty "1").register "owner" ⟨"User", none, ["people"]⟩
    let relations : List (String × RelationDefinition) :=
      [("pictures", ⟨"Picture", none, ["images"]⟩), ("images", ⟨"Image", none, []⟩),
        ("photos", ⟨"Photo", none, ["images"]⟩)]
    (registry.registerAll relations).lookup "images" = some ⟨"Photo", none⟩ ∧
      (registry.registerAll relations).lookup "people" = some ⟨"User", none⟩ ∧
      ∃ loaded otherLoaded, ofJsonText crossedText = .ok loaded ∧
        ofJsonText crossedBackText = .ok otherLoaded ∧
        loaded.lookup "owner" = otherLoaded.lookup "owner" := by
  intro registry relations
  have distinct : registry.Distinct := (distinct_empty "1").register _ _
  obtain ⟨lasts, others, _, _, orders⟩ := registerAll_stands_for_last registry distinct relations
  have last : LastNamed "images" ("photos", ⟨"Photo", none, ["images"]⟩) relations :=
    ⟨relations.take 2, [], rfl, .inr List.mem_cons_self, List.forall_mem_nil _⟩
  have unnamed : ∀ relation ∈ relations, ¬ HasName relation "people" := by decide
  have otherRead : written crossedBackText =
      .ok { crossedDocument with relations := crossedDocument.relations.reverse } := by
    cbv
  have nodup : (crossedDocument.relations.map Prod.fst).Nodup := by decide
  obtain ⟨loaded, otherLoaded, accepted, otherAccepted, same⟩ :=
    orders _ _ _ _ written_crossedText otherRead nodup (List.reverse_perm _).symm
  exact ⟨lasts _ _ last, others _ unnamed, loaded, otherLoaded, accepted, otherAccepted, same _⟩

/-! ## Keys among the aliases of others -/

/-- A relation has a key among its aliases and its own key behind it. -/
def TakesOver (relation : String × RelationDefinition) (key : String) : Prop :=
  key < relation.1 ∧ key ∈ relation.2.aliases

instance (relation : String × RelationDefinition) (key : String) :
    Decidable (TakesOver relation key) :=
  inferInstanceAs (Decidable (_ ∧ _))

private theorem Ascending.lastNamed {relations : List (String × RelationDefinition)}
    (ascending : Ascending relations) {relation : String × RelationDefinition}
    (member : relation ∈ relations) {name : String} (named : HasName relation name)
    (unnamed : ∀ later ∈ relations, relation.1 < later.1 → ¬ HasName later name) :
    LastNamed name relation relations := by
  obtain ⟨before, after, rfl⟩ := List.append_of_mem member
  obtain ⟨_, fromHere, _⟩ := List.pairwise_append.mp ascending
  have behind := (List.pairwise_cons.mp fromHere).1
  refine ⟨before, after, rfl, named, fun later inAfter => ?_⟩
  have inAll : later ∈ before ++ relation :: after :=
    List.mem_append_right before (List.mem_cons_of_mem relation inAfter)
  exact unnamed later inAll (behind later inAfter)

private theorem takesOver_of_hasName {relation : String × RelationDefinition} {key : String}
    (behind : key < relation.1) (named : HasName relation key) : TakesOver relation key := by
  rcases named with same | aliased
  · exact absurd behind (same ▸ lt_irrefl _)
  · exact ⟨behind, aliased⟩

/-- Every registry document that is accepted gives a key that it declares its own definition,
unless a relation with a later key has that key among its aliases.  Then the last such relation
takes the key over. -/
theorem lookup_declared_unless_taken {text : String} {document : Document}
    (read : written text = .ok document) {key : String} {definition : RelationDefinition}
    (declared : (key, definition) ∈ sortPairs document.relations) :
    ∃ registry, ofJsonText text = .ok registry ∧
      ((∀ relation ∈ sortPairs document.relations, ¬ TakesOver relation key) →
        registry.lookup key = some definition.handle) ∧
      ∀ relation ∈ sortPairs document.relations, TakesOver relation key →
        (∀ later ∈ sortPairs document.relations, relation.1 < later.1 →
          ¬ TakesOver later key) →
        registry.lookup key = some relation.2.handle := by
  have ascending := ascending_sortPairs document.relations
  refine ⟨ofDocument document.sorted, ofJsonText_of_written read, ?_, ?_⟩
  · intro untaken
    have last : LastNamed key (key, definition) (sortPairs document.relations) := by
      apply ascending.lastNamed declared (.inl rfl)
      intro later member behind named
      exact untaken later member (takesOver_of_hasName behind named)
    exact lookup_registerAll_of_last _ last
  · intro relation member taken untaken
    have last : LastNamed key relation (sortPairs document.relations) := by
      apply ascending.lastNamed member (.inr taken.2)
      intro later laterMember behind named
      exact untaken later laterMember behind (takesOver_of_hasName (taken.1.trans behind) named)
    exact lookup_registerAll_of_last _ last

/-- Of two relations with the keys of each other among their aliases, the one with the later
key keeps its own. -/
theorem lookup_declared_crossed :
    ("pictures", ⟨"Picture", none, ["owner"]⟩) ∈ sortPairs crossedDocument.relations ∧
      ∃ registry, ofJsonText crossedText = .ok registry ∧
        registry.lookup "pictures" = some ⟨"Picture", none⟩ := by
  have declared : ("pictures", ⟨"Picture", none, ["owner"]⟩) ∈
      sortPairs crossedDocument.relations := by decide
  obtain ⟨registry, accepted, own, _⟩ :=
    lookup_declared_unless_taken written_crossedText declared
  have untaken : ∀ relation ∈ sortPairs crossedDocument.relations,
      ¬ TakesOver relation "pictures" := by decide
  exact ⟨declared, registry, accepted, own untaken⟩

/-- The other one loses its key, although it is declared under it. -/
theorem lookup_declared_not_own :
    ∃ document registry, written crossedText = .ok document ∧
      ("owner", ⟨"User", none, ["pictures"]⟩) ∈ sortPairs document.relations ∧
      ofJsonText crossedText = .ok registry ∧
      registry.lookup "owner" = some ⟨"Picture", none⟩ ∧
      registry.lookup "owner" ≠ some (RelationDefinition.handle ⟨"User", none, ["pictures"]⟩) := by
  have answer : (ofDocument crossedDocument.sorted).lookup "owner" = some ⟨"Picture", none⟩ := by
    decide
  refine ⟨crossedDocument, _, written_crossedText, by decide,
    ofJsonText_of_written written_crossedText, answer, ?_⟩
  rw [answer]
  decide

end Registry

end QueryCompiler
