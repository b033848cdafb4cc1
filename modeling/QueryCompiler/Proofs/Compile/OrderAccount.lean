import QueryCompiler.Proofs.Compile.EntryAccount
import QueryCompiler.Proofs.Compile.Failure
import QueryCompiler.Proofs.Sort.Language

/-!
# Every sort token is accounted for

An order fails with the first lookup of a relation that fails.  Otherwise it has one term for
each token that is read, and its diagnostics tell of each token that is not read or whose
relation is unknown, both in the order of the tokens.  Tokens are resolved independently of
each other, so an order can be resolved in two parts.
-/

namespace QueryCompiler

open Outcome

/-! ## Names of tokens -/

/-- The names of a sort token, without the sigils and blanks around it. -/
def tokenSegments (token : String) : List (List Char) :=
  SortToken.tokenNames (SortToken.trimmed token)

/-- The relation of a token that is read is its first name, if another one follows. -/
theorem relation_eq_some_iff {token : String} {read : SortToken}
    (parsed : SortToken.parse token = .ok read) {name : String} :
    read.relation = some name ↔
      2 ≤ (tokenSegments token).length ∧ (tokenSegments token).head? = some name.toList := by
  have described := (SortToken.describes_of_parse parsed).relation
  rw [described, ← tokenSegments, List.head?_eq_getElem?]
  by_cases several : 2 ≤ (tokenSegments token).length
  · simp only [several, if_true, true_and]
    rw [Option.map_eq_some_iff]
    constructor
    · rintro ⟨first, found, rfl⟩
      rw [found, String.toList_ofList]
    · intro found
      exact ⟨name.toList, found, String.ofList_toList⟩
  · simp [several]

/-! ## Terms -/

/-- What a term says for a sort token that is read.  It belongs to a relation if the token has
a second name and the first one is known, and then it has the handle of that relation. -/
structure TermOf (catalog : Catalog) (token : String) (term : OrderTerm) : Prop where
  read : ∃ relation, SortToken.parse token = .ok ⟨term.direction, relation, term.column⟩
  qualified : ∀ qualifier, term.relation = some qualifier ↔
    2 ≤ (tokenSegments token).length ∧
      (tokenSegments token).head? = some qualifier.name.toList ∧
      catalog qualifier.name = .ok (some qualifier.handle)

private theorem termOf_of_parse {catalog : Catalog} {token : String} {term : OrderTerm}
    {relation : Option String}
    (parsed : SortToken.parse token = .ok ⟨term.direction, relation, term.column⟩)
    (belongs : ∀ qualifier, term.relation = some qualifier ↔
      relation = some qualifier.name ∧ catalog qualifier.name = .ok (some qualifier.handle)) :
    TermOf catalog token term where
  read := ⟨relation, parsed⟩
  qualified qualifier := by
    have first : relation = some qualifier.name ↔ _ := relation_eq_some_iff parsed
    rw [belongs, first, and_assoc]

/-- Whether a sort token is read. -/
def isRead (token : String) : Bool :=
  (SortToken.parse token).isOk

private theorem terms_of_parse {catalog : Catalog} {token : String} {term : OrderTerm}
    {relation : Option String}
    (parsed : SortToken.parse token = .ok ⟨term.direction, relation, term.column⟩)
    (belongs : ∀ qualifier, term.relation = some qualifier ↔
      relation = some qualifier.name ∧ catalog qualifier.name = .ok (some qualifier.handle)) :
    List.Forall₂ (TermOf catalog) ([token].filter isRead) [term] := by
  have read : [token].filter isRead = [token] := by
    simp [isRead, parsed, Except.isOk, Except.toBool]
  rw [read]
  exact .cons (termOf_of_parse parsed belongs) .nil

private theorem ResolvedToken.terms {catalog : Catalog} {token : String} {terms : List OrderTerm}
    {diagnostics : List Diagnostic}
    (resolved : ResolvedToken catalog token terms diagnostics) :
    List.Forall₂ (TermOf catalog) ([token].filter isRead) terms := by
  cases resolved with
  | invalid refused => simp [isRead, refused, Except.isOk, Except.toBool]
  | plain parsed =>
      apply terms_of_parse parsed
      intro qualifier
      simp [OrderTerm.plain]
  | qualified parsed known =>
      apply terms_of_parse parsed
      intro qualifier
      constructor
      · intro same
        cases same
        exact ⟨rfl, known⟩
      · rintro ⟨same, found⟩
        cases same
        rw [known] at found
        cases found
        rfl
  | unresolved parsed unknown =>
      apply terms_of_parse parsed
      intro qualifier
      constructor
      · intro same
        cases same
      · rintro ⟨same, found⟩
        cases same
        rw [unknown] at found
        cases found

private theorem ResolvedOrder.terms {catalog : Catalog} {tokens : List String}
    {terms : List OrderTerm}
    {diagnostics : List Diagnostic}
    (resolved : ResolvedOrder catalog tokens terms diagnostics) :
    List.Forall₂ (TermOf catalog) (tokens.filter isRead) terms := by
  induction resolved with
  | nil => exact .nil
  | @cons token tokens _ _ _ _ first rest inductionHypothesis =>
      have split : (token :: tokens).filter isRead =
          [token].filter isRead ++ tokens.filter isRead :=
        List.filter_append [token] tokens
      rw [split]
      exact List.rel_append first.terms inductionHypothesis

/-! ## Failures -/

/-- The lookup that a sort token asks for fails. -/
def LookupFails (catalog : Catalog) (token : String) (failure : LookupFailure) : Prop :=
  ∃ direction relation column,
    SortToken.parse token = .ok ⟨direction, some relation, column⟩ ∧
      catalog relation = .error failure

theorem lookupFailure?_eq_none_iff {catalog : Catalog} {token : String} :
    lookupFailure? catalog token = none ↔ ∀ failure, ¬ LookupFails catalog token failure := by
  rw [Option.eq_none_iff_forall_ne_some]
  exact forall_congr' fun failure => not_congr lookupFailure?_eq_some_iff

theorem resolveOrder_eq_error_iff {catalog : Catalog} {tokens : List String}
    {failure : LookupFailure} :
    resolveOrder catalog tokens = .error failure ↔
      ∃ before token after, tokens = before ++ token :: after ∧
        LookupFails catalog token failure ∧
        ∀ earlier ∈ before, ∀ other, ¬ LookupFails catalog earlier other := by
  rw [← error?_eq_some_iff, error?_resolveOrder, tokensFailure?, List.findSome?_eq_some_iff]
  simp only [lookupFailure?_eq_some_iff, lookupFailure?_eq_none_iff]
  exact Iff.rfl

theorem resolveOrder_fails_iff {catalog : Catalog} {tokens : List String} :
    (∃ failure, resolveOrder catalog tokens = .error failure) ↔
      ∃ token ∈ tokens, ∃ failure, LookupFails catalog token failure := by
  simp only [← error?_eq_some_iff, error?_resolveOrder, exists_tokensFailure?_iff,
    lookupFailure?_eq_some_iff, LookupFails]

/-! ## Orders in parts -/

private theorem resolveOrderOnto_append (catalog : Catalog) (tokens others : List String)
    (recorded : List Diagnostic) :
    resolveOrderOnto catalog (tokens ++ others) recorded = do
      let (terms, recorded) ← resolveOrderOnto catalog tokens recorded
      let (moreTerms, recorded) ← resolveOrderOnto catalog others recorded
      return (terms ++ moreTerms, recorded) := by
  induction tokens generalizing recorded with
  | nil =>
      rw [List.nil_append]
      simp only [resolveOrderOnto, ok_bind]
      cases resolveOrderOnto catalog others recorded with
      | error failure => rfl
      | ok result => rfl
  | cons token tokens inductionHypothesis =>
      rw [List.cons_append, resolveOrderOnto, resolveOrderOnto]
      cases resolveToken catalog token with
      | error failure => rfl
      | ok first =>
          simp only [ok_bind, inductionHypothesis]
          cases resolveOrderOnto catalog tokens (recorded ++ first.2) with
          | error failure => rfl
          | ok part =>
              simp only [ok_bind, pure_eq]
              cases resolveOrderOnto catalog others part.2 with
              | error failure => rfl
              | ok rest => simp

/-! ## Every token is accounted for -/

/-- An order resolves to the same terms whatever diagnostics are there already, with its own
behind them.  It fails if and only if a lookup that one of its tokens asks for does, and with
the first such failure.  Otherwise it has one term for each token that is read and one
diagnostic for each token to which `tokenDiagnostic?` gives one, in the order of the tokens.
An order can be resolved in two parts. -/
theorem resolveOrderOnto_accounts_for_tokens (catalog : Catalog) (tokens : List String)
    (recorded : List Diagnostic) :
    resolveOrderOnto catalog tokens recorded =
        (resolveOrder catalog tokens).map (behind recorded) ∧
      ((∃ failure, resolveOrderOnto catalog tokens recorded = .error failure) ↔
        ∃ token ∈ tokens, ∃ failure, LookupFails catalog token failure) ∧
      (∀ failure, resolveOrderOnto catalog tokens recorded = .error failure ↔
        ∃ before token after, tokens = before ++ token :: after ∧
          LookupFails catalog token failure ∧
          ∀ earlier ∈ before, ∀ other, ¬ LookupFails catalog earlier other) ∧
      ((∀ token ∈ tokens, ∀ failure, ¬ LookupFails catalog token failure) →
        ∃ terms, resolveOrderOnto catalog tokens recorded =
            .ok (terms, recorded ++ tokens.filterMap (tokenDiagnostic? catalog)) ∧
          List.Forall₂ (TermOf catalog) (tokens.filter isRead) terms) ∧
      ∀ others, resolveOrderOnto catalog (tokens ++ others) recorded = do
        let (terms, recorded) ← resolveOrderOnto catalog tokens recorded
        let (moreTerms, recorded) ← resolveOrderOnto catalog others recorded
        return (terms ++ moreTerms, recorded) := by
  have failing (failure : LookupFailure) :
      resolveOrderOnto catalog tokens recorded = .error failure ↔
        resolveOrder catalog tokens = .error failure := by
    rw [resolveOrderOnto_eq, map_eq_error]
  refine ⟨resolveOrderOnto_eq catalog tokens recorded,
    (exists_congr failing).trans resolveOrder_fails_iff,
    fun failure => (failing failure).trans resolveOrder_eq_error_iff,
    fun noneFails => ?_, fun others => resolveOrderOnto_append catalog tokens others recorded⟩
  cases outcome : resolveOrder catalog tokens with
  | error failure =>
      obtain ⟨token, member, other, fails⟩ := resolveOrder_fails_iff.mp ⟨failure, outcome⟩
      exact absurd fails (noneFails token member other)
  | ok result =>
      obtain ⟨terms, diagnostics⟩ := result
      have resolved := of_resolveOrder outcome
      refine ⟨terms, ?_, resolved.terms⟩
      rw [resolveOrderOnto_eq, outcome, map_ok, behind, resolved.diagnostics_eq]

end QueryCompiler
