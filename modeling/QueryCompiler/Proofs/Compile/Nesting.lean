import QueryCompiler.Proofs.Compile.Assemble
import QueryCompiler.Proofs.Descriptor.Nesting
import QueryCompiler.Proofs.Filter.Nesting

/-!
# Compiled descriptors as texts

The descriptor of a query text is nested at most three times as deep as the query.
So it is read back from its own text, as long as the query is nested no more than a
third of the limit (`decodeText_canonicalText_of_compile`).  Beyond that it may be
refused: one `$not` within another adds a level to the query and to the descriptor,
but the descriptor starts two levels further down.  An integer of more than 64 bits is
read as a double, and the text of a double need not be read as the same one.
-/

namespace QueryCompiler

open Json

variable {catalog : Catalog} {limit : Nat}

/-! ## Fields of raw input -/

private theorem within_of_lookup {members : Json.Members}
    (within : ∀ member ∈ members, member.2.Within limit) (key : String) :
    ∀ value ∈ members.lookup key, value.Within limit := by
  intro value found
  obtain ⟨before, after, rfl, _⟩ := List.lookup_eq_some_iff.mp found
  exact within (key, value) (List.mem_append_right before List.mem_cons_self)

private theorem within_of_nonNull? {raw : Option Json}
    (within : ∀ value ∈ raw, value.Within limit) :
    ∀ value ∈ raw.bind nonNull?, value.Within limit := by
  intro value member
  obtain ⟨found, rawFound, kept⟩ := Option.bind_eq_some_iff.mp member
  obtain ⟨rfl, _⟩ := ne_null_of_nonNull? kept
  exact within value rawFound

/-- A filter that is missing is translated without nesting of its own. -/
theorem within_of_translate_filterOrEmpty {raw : Option Json} {predicate : Predicate}
    (within : ∀ value ∈ raw, value.Within limit)
    (translated : Filter.translate (filterOrEmpty raw) = .ok predicate) :
    predicate.toJson.Within (max 1 (3 * limit)) := by
  have kept := within_of_nonNull? within
  unfold filterOrEmpty at translated
  cases found : raw.bind nonNull? with
  | none =>
      rw [found, Option.getD_none, translate_emptyFilter] at translated
      cases translated
      exact Predicate.within_always.mono (Nat.le_max_left 1 _)
  | some value =>
      rw [found] at translated
      exact Filter.within_of_translate (kept value found) translated

/-! ## Associations -/

private theorem within_of_resolveCondition {expression : Option Json} {condition : Option Predicate}
    (within : ∀ value ∈ expression, value.Within limit)
    (resolved : resolveCondition Filter.translate expression = .ok condition) :
    ∀ predicate ∈ condition, predicate.toJson.Within (max 1 (3 * limit)) := by
  cases expression with
  | none =>
      cases resolved
      exact fun _ member => nomatch member
  | some value =>
      obtain ⟨predicate, translated, rfl⟩ := Outcome.map_eq_ok.mp resolved
      have kept := Filter.within_of_translate (within value rfl) translated
      exact fun _ member => Option.some.inj member ▸ kept

mutual

/-- What an association resolves to is nested at most three times as deep, up to the
levels that an order takes. -/
theorem within_of_resolveEntry :
    ∀ {raw : Json} {limit : Nat} {includes : List Include} {diagnostics : List Diagnostic},
      raw.Within limit →
        resolveEntry ⟨catalog, Filter.translate⟩ (.ofJson raw) = .ok (includes, diagnostics) →
        ∀ included ∈ includes, included.toJson.Within (3 * limit + 2)
  | .string association, _, _, _, _, resolved => by
      rw [ExpandEntry.ofJson] at resolved
      split at resolved
      · cases resolved
        exact List.forall_mem_nil _
      · cases resolved
        exact List.forall_mem_singleton.mpr (.string association)
  | .object members, limit, _, _, within, resolved => by
      obtain ⟨inner, rfl, each⟩ := within.members
      rw [ExpandEntry.ofJson] at resolved
      cases of_resolveEntry resolved with
      | unnamed => exact List.forall_mem_nil _
      | unresolved => exact List.forall_mem_nil _
      | expanded named known conditioned ordered nestedResolved =>
          have condition := within_of_resolveCondition
            (within_of_nonNull? (within_of_lookup each "where")) conditioned
          have attributes := within_of_nonNull? (within_of_lookup each "attributes")
          have entries := within_of_resolveMembers each nestedResolved
          -- The five levels are those of an order, however little else is nested.
          refine List.forall_mem_singleton.mpr (Include.within_expand (3 * inner) ?_ ?_ ?_)
          · exact fun predicate member => (condition predicate member).mono (by omega)
          · exact fun value member => (attributes value member).mono (by omega)
          · exact fun entry member => (entries entry member).mono (by omega)
  | .null, _, _, _, _, resolved | .bool _, _, _, _, _, resolved
  | .number _, _, _, _, _, resolved | .array _, _, _, _, _, resolved => by
      cases resolved
      exact List.forall_mem_nil _

private theorem within_of_resolveMembers :
    ∀ {members : Json.Members} {limit : Nat} {includes : List Include}
      {diagnostics : List Diagnostic}, (∀ member ∈ members, member.2.Within limit) →
        resolveEntries ⟨catalog, Filter.translate⟩ (ExpandEntry.ofMembers members) =
          .ok (includes, diagnostics) →
        ∀ included ∈ includes, included.toJson.Within (3 * limit - 1)
  | [], _, _, _, _, resolved => by
      cases resolved
      exact List.forall_mem_nil _
  | (key, value) :: members, _, _, _, within, resolved => by
      obtain ⟨first, rest⟩ := List.forall_mem_cons.mp within
      rw [ExpandEntry.ofMembers] at resolved
      split at resolved
      · exact within_of_resolveList first resolved
      · exact within_of_resolveMembers rest resolved

private theorem within_of_resolveList :
    ∀ {raw : Json} {limit : Nat} {includes : List Include} {diagnostics : List Diagnostic},
      raw.Within limit →
        resolveEntries ⟨catalog, Filter.translate⟩ (ExpandEntry.ofList raw) =
          .ok (includes, diagnostics) →
        ∀ included ∈ includes, included.toJson.Within (3 * limit - 1)
  | .array items, _, _, _, within, resolved => by
      obtain ⟨inner, rfl, each⟩ := within.items
      have entries := within_of_resolveItems each resolved
      exact fun entry member => (entries entry member).mono (by omega)
  | .null, _, _, _, _, resolved | .bool _, _, _, _, _, resolved
  | .number _, _, _, _, _, resolved | .string _, _, _, _, _, resolved
  | .object _, _, _, _, _, resolved => by
      cases resolved
      exact List.forall_mem_nil _

private theorem within_of_resolveItems :
    ∀ {items : List Json} {limit : Nat} {includes : List Include}
      {diagnostics : List Diagnostic}, (∀ item ∈ items, item.Within limit) →
        resolveEntries ⟨catalog, Filter.translate⟩ (ExpandEntry.ofItems items) =
          .ok (includes, diagnostics) →
        ∀ included ∈ includes, included.toJson.Within (3 * limit + 2)
  | [], _, _, _, _, resolved => by
      cases resolved
      exact List.forall_mem_nil _
  | item :: items, _, _, _, within, resolved => by
      obtain ⟨firstWithin, restWithin⟩ := List.forall_mem_cons.mp within
      rw [ExpandEntry.ofItems] at resolved
      obtain ⟨first, rest, firstResolved, restResolved, rfl, rfl⟩ :=
        resolveEntries_cons_eq_ok resolved
      exact List.forall_mem_append.mpr ⟨within_of_resolveEntry firstWithin firstResolved,
        within_of_resolveItems restWithin restResolved⟩

end

/-! ## Descriptors -/

/-- A descriptor adds three levels around a condition and two around an entry. -/
theorem Assembly.within_toJson {context : Context} {spec : QuerySpec}
    (assembly : Assembly context spec .empty false)
    (includes : ∀ entry ∈ assembly.includes, entry.toJson.Within (limit + 3))
    (filter : assembly.filter.toJson.Within (limit + 2))
    (additional : assembly.additional.toJson.Within (limit + 2)) :
    assembly.descriptor.toJson.Within (limit + 5) := by
  have condition : assembly.descriptor.condition.toJson.Within (limit + 4) :=
    Predicate.within_all (List.forall_mem_cons.mpr
      ⟨filter, List.forall_mem_singleton.mpr additional⟩)
  exact Descriptor.within_toJson includes condition (List.forall_mem_nil _)

private theorem within_of_translate_filters {raw : Json} {filter additional : Predicate}
    (within : raw.Within limit)
    (filterTranslated : Filter.translate (QuerySpec.ofJson raw).filter = .ok filter)
    (additionalTranslated :
      Filter.translate (QuerySpec.ofJson raw).additionalFilter = .ok additional) :
    filter.toJson.Within (max 1 (3 * limit - 3)) ∧
      additional.toJson.Within (max 1 (3 * limit - 3)) := by
  cases raw with
  | object members =>
      obtain ⟨inner, rfl, each⟩ := within.members
      have filterWithin := within_of_translate_filterOrEmpty (within_of_lookup each "filter")
        filterTranslated
      have additionalWithin := within_of_translate_filterOrEmpty
        (within_of_lookup each "additionalFilter") additionalTranslated
      exact ⟨filterWithin.mono (by omega), additionalWithin.mono (by omega)⟩
  | _ =>
      have absent : ∀ value ∈ (none : Option Json), value.Within 0 := fun _ member => nomatch member
      have filterWithin := within_of_translate_filterOrEmpty absent filterTranslated
      have additionalWithin := within_of_translate_filterOrEmpty absent additionalTranslated
      exact ⟨filterWithin.mono (by omega), additionalWithin.mono (by omega)⟩

private theorem within_of_resolveExpands {raw : Json} {includes : List Include}
    {diagnostics : List Diagnostic} (within : raw.Within limit)
    (resolved : resolveEntries ⟨catalog, Filter.translate⟩ (QuerySpec.ofJson raw).expands =
      .ok (includes, diagnostics)) :
    ∀ entry ∈ includes, entry.toJson.Within (3 * limit - 4) := by
  cases raw with
  | object members =>
      obtain ⟨inner, rfl, each⟩ := within.members
      simp only [QuerySpec.ofJson] at resolved
      cases found : members.lookup "expands" with
      | none =>
          rw [found] at resolved
          cases resolved
          exact List.forall_mem_nil _
      | some value =>
          rw [found] at resolved
          have valueWithin := within_of_lookup each "expands" value found
          have entries := within_of_resolveList valueWithin resolved
          exact fun entry member => (entries entry member).mono (by omega)
  | _ =>
      cases resolved
      exact List.forall_mem_nil _

/-- A query nested to a depth is compiled to a descriptor nested at most three times as
deep, or as deep as an order by relations. -/
theorem within_of_compile {raw : Json} {descriptor : Descriptor} (within : raw.Within limit)
    (compiled : compile ⟨catalog, Filter.translate⟩ (.ofJson raw) = .ok descriptor) :
    descriptor.toJson.Within (max 5 (3 * limit)) := by
  obtain ⟨assembly, rfl⟩ := compile_eq_ok_iff.mp compiled
  obtain ⟨filter, additional⟩ := within_of_translate_filters within assembly.filter_translated
    assembly.additional_translated
  have includes := within_of_resolveExpands within assembly.expands_resolved
  have room : max 5 (3 * limit) = (3 * limit - 5) + 5 := by omega
  rw [room]
  apply assembly.within_toJson
  · exact fun entry member => (includes entry member).mono (by omega)
  · exact filter.mono (by omega)
  · exact additional.mono (by omega)

private theorem restorable_of_compile {raw : Json} {descriptor : Descriptor}
    (wellFormed : raw.WellFormed)
    (compiled : compile ⟨catalog, Filter.translate⟩ (.ofJson raw) = .ok descriptor) :
    descriptor.Restorable := by
  obtain ⟨assembly, rfl⟩ := compile_eq_ok_iff.mp compiled
  exact assembly.restorable Filter.keepsWellFormed_translate
    (QuerySpec.wellFormed_ofJson wellFormed) BaseDescriptor.restorable_empty

/-- A compiled descriptor is decoded from its own text, unless it is nested too deep. -/
theorem decodeText_canonicalText_of_wellFormed {raw : Json} {descriptor : Descriptor}
    (integral : raw.Integral) (wellFormed : raw.WellFormed)
    (compiled : compile ⟨catalog, Filter.translate⟩ (.ofJson raw) = .ok descriptor) :
    decodeText (Descriptor.decode .text) descriptor.canonicalText =
      if descriptor.toJson.depth ≤ nestingLimit then .ok descriptor
      else .error (.malformed .nestedTooDeep) := by
  have within := within_of_compile ⟨integral, Nat.le_refl _⟩ compiled
  exact Descriptor.decodeText_canonicalText (restorable_of_compile wellFormed compiled)
    within.integral

private theorem QuerySpec.ofText_of_parse {text : String} {raw : Json}
    (parsed : Json.parse text = .ok raw) :
    ofText text = .ok (.ofJson raw) := by
  rw [ofText, parsed, Outcome.map_ok]

/-! ## Queries that only filter -/

/-- A query that is restricted by an expression and asks for nothing else. -/
def filteredQuery (expression : Json) : Json :=
  .object [("filter", expression)]

/-- The descriptor of such a query, by the predicate of its expression. -/
def filteredDescriptor (predicate : Predicate) : Descriptor :=
  ⟨.set 0, .set 20, .set [], [], none, .all [predicate, .always], []⟩

private theorem compile_filteredQuery {expression : Json} {predicate : Predicate}
    (translated : Filter.translate expression = .ok predicate) :
    compile ⟨catalog, Filter.translate⟩ (.ofJson (filteredQuery expression)) =
      .ok (filteredDescriptor predicate) := by
  have filter : Filter.translate (QuerySpec.ofJson (filteredQuery expression)).filter =
      .ok predicate := by
    cases expression with
    | null =>
        cases translated
        exact translate_emptyFilter
    | _ => exact translated
  have additional :
      Filter.translate (QuerySpec.ofJson (filteredQuery expression)).additionalFilter =
        .ok .always := translate_emptyFilter
  exact compile_eq_ok_iff.mpr
    ⟨⟨.set [], [], [], [], predicate, .always, rfl, rfl, filter, additional⟩, rfl⟩

/-- The descriptor adds three levels to its predicates, one of which is always met. -/
theorem depth_filteredDescriptor (predicate : Predicate) :
    (filteredDescriptor predicate).toJson.depth = max 1 predicate.toJson.depth + 3 := by
  simp only [filteredDescriptor, Descriptor.toJson, Descriptor.toMembers, Slot.toMember,
    optionalMember, Include.toJsonItems, orderToJson, ofUInt64, Predicate.toJson,
    Predicate.toJsonItems, List.map_nil, List.cons_append, List.nil_append, List.append_nil, depth,
    depthOfMembers, depthOfItems]
  omega

/-! ### Negations within each other -/

/-- The empty expression within so many negations. -/
def negatedExpression : Nat → Json
  | 0 => .object []
  | count + 1 => .object [("$not", negatedExpression count)]

/-- The predicate of that expression. -/
def negatedPredicate : Nat → Predicate
  | 0 => .always
  | count + 1 => .negation (negatedPredicate count)

private theorem integral_negatedExpression (count : Nat) :
    (filteredQuery (negatedExpression count)).Integral := by
  have integral : (negatedExpression count).Integral := by
    induction count with
    | zero => exact .object (List.forall_mem_nil _)
    | succ count inductionHypothesis =>
        exact .object (List.forall_mem_singleton.mpr inductionHypothesis)
  exact .object (List.forall_mem_singleton.mpr integral)

private theorem wellFormed_negatedExpression (count : Nat) :
    (filteredQuery (negatedExpression count)).WellFormed := by
  have wellFormed : (negatedExpression count).WellFormed := by
    induction count with
    | zero => exact .object List.nodup_nil (List.forall_mem_nil _)
    | succ count inductionHypothesis =>
        exact .object (by simp) (List.forall_mem_singleton.mpr inductionHypothesis)
  exact .object (by simp) (List.forall_mem_singleton.mpr wellFormed)

private theorem depth_negatedExpression (count : Nat) :
    (negatedExpression count).depth = count + 1 := by
  induction count with
  | zero => rfl
  | succ count inductionHypothesis =>
      rw [negatedExpression, depth, depthOfMembers, depthOfMembers, inductionHypothesis,
        Nat.max_zero]

private theorem depth_negatedPredicate (count : Nat) :
    (negatedPredicate count).toJson.depth = count + 1 := by
  induction count with
  | zero => rfl
  | succ count inductionHypothesis =>
      simp only [negatedPredicate, Predicate.toJson, depth, depthOfMembers, inductionHypothesis]
      omega

private theorem translateNested_negatedExpression (operator : String) (count : Nat) :
    Filter.translateNested operator (negatedExpression count) = .ok (negatedPredicate count) := by
  induction count generalizing operator with
  | zero =>
      rw [negatedExpression, Filter.translateNested, Filter.translateMembers]
      rfl
  | succ count inductionHypothesis =>
      have notAnd : ¬ "$not" = "$and" := by decide
      have notOr : ¬ "$not" = "$or" := by decide
      rw [negatedExpression, Filter.translateNested, Filter.translateMembers,
        Filter.translateMembers, Filter.translateMember, if_neg notAnd, if_neg notOr, if_pos rfl,
        inductionHypothesis]
      rfl

private theorem compile_negatedExpression (catalog : Catalog) (count : Nat) :
    compile ⟨catalog, Filter.translate⟩ (.ofJson (filteredQuery (negatedExpression count))) =
      .ok (filteredDescriptor (negatedPredicate count)) := by
  have translated := translateNested_negatedExpression "$not" count
  apply compile_filteredQuery
  cases count <;> exact (Filter.translate_object "$not" _).trans translated

/-- A query text with so many negations is accepted as long as it keeps the limit. -/
theorem parse_negatedExpression (count : Nat) (shallow : count + 2 ≤ nestingLimit) :
    Json.parse (filteredQuery (negatedExpression count)).compact =
      .ok (filteredQuery (negatedExpression count)) := by
  have kept : (filteredQuery (negatedExpression count)).depth ≤ nestingLimit := by
    simp only [filteredQuery, depth, depthOfMembers, depth_negatedExpression]
    omega
  exact parse_compact (integral_negatedExpression count) (wellFormed_negatedExpression count) kept

private theorem decodeText_negatedPredicate (count : Nat) :
    decodeText (Descriptor.decode .text)
        (filteredDescriptor (negatedPredicate count)).canonicalText =
      if count + 4 ≤ nestingLimit then .ok (filteredDescriptor (negatedPredicate count))
      else .error (.malformed .nestedTooDeep) := by
  have depth : (filteredDescriptor (negatedPredicate count)).toJson.depth = count + 4 := by
    rw [depth_filteredDescriptor, depth_negatedPredicate]
    omega
  have compiled := compile_negatedExpression (fun _ => .ok none) count
  rw [decodeText_canonicalText_of_wellFormed (integral_negatedExpression count)
    (wellFormed_negatedExpression count) compiled, depth]

/-! ### An integer of more than 64 bits -/

/-- An expression that compares a field with a double. -/
def amountExpression (amount : Binary64) : Json :=
  .object [("amount", .number (.float amount))]

/-- The predicate of that expression. -/
def amountPredicate (amount : Binary64) : Predicate :=
  .compare "amount" .eq (.number (.float amount))

/-- The double that -9251005353214658650 is read as. -/
def roundedAmount : Binary64 :=
  ⟨true, 4517092457624345, 1085, by decide, by decide, by decide⟩

private theorem compile_amountExpression (amount : Binary64) :
    compile ⟨catalog, Filter.translate⟩ (.ofJson (filteredQuery (amountExpression amount))) =
      .ok (filteredDescriptor (amountPredicate amount)) := by
  have notAnd : ¬ "amount" = "$and" := by decide
  have notOr : ¬ "amount" = "$or" := by decide
  have notNot : ¬ "amount" = "$not" := by decide
  have field : ¬ Filter.isOperatorLike "amount" = true := by decide
  apply compile_filteredQuery
  rw [amountExpression, Filter.translate, Filter.translateMembers, Filter.translateMembers,
    Filter.translateMember, if_neg notAnd, if_neg notOr, if_neg notNot, if_neg field]
  rfl

/-- A query text that compares the field with that integer. -/
def wideIntegerText : String :=
  "\x7b\"filter\":\x7b\"amount\":-9251005353214658650\x7d\x7d"

/-- Whether a reading gives the query for an amount. -/
def givesAmount (amount : Binary64) : Except ReadError Json → Bool
  | .ok (.object [(key, .object [(field, .number (.float found))])]) =>
      decide (key = "filter" ∧ field = "amount" ∧ found = amount)
  | _ => false

/-- Whether a reading gives a descriptor for another amount. -/
def givesOtherAmount (amount : Binary64) : Except ReadError Descriptor → Bool
  | .ok ⟨_, _, _, _, _, .all [.compare _ _ (.number (.float found)), _], _⟩ =>
      decide (found ≠ amount)
  | _ => false

private theorem parse_wideIntegerText :
    Json.parse wideIntegerText = .ok (filteredQuery (amountExpression roundedAmount)) := by
  -- The elaborator does not evaluate the powers of two in a double, but the kernel does.
  have read : givesAmount roundedAmount (Json.parse wideIntegerText) = true := by
    decide +kernel
  unfold givesAmount at read
  split at read
  · rename_i parsed
    obtain ⟨rfl, rfl, rfl⟩ := of_decide_eq_true read
    exact parsed
  · cases read

/-- The shortest text of that double is read as another double. -/
theorem decodeText_roundedAmount :
    ∃ other, decodeText (Descriptor.decode .text)
        (filteredDescriptor (amountPredicate roundedAmount)).canonicalText = .ok other ∧
      other ≠ filteredDescriptor (amountPredicate roundedAmount) := by
  have read : givesOtherAmount roundedAmount (decodeText (Descriptor.decode .text)
      (filteredDescriptor (amountPredicate roundedAmount)).canonicalText) = true := by
    decide +kernel
  unfold givesOtherAmount at read
  split at read
  · rename_i decoded
    refine ⟨_, decoded, ?_⟩
    rintro ⟨⟩
    simp at read
  · cases read

/-! ## Texts -/

/-- The descriptor of a query text whose numbers are integers is decoded from its own
text, unless it is nested beyond the limit.  It is nested at most three times as deep
as the query, or five levels. -/
theorem decodeText_canonicalText_of_compile {text : String} {raw : Json} {spec : QuerySpec}
    {descriptor : Descriptor} (accepted : QuerySpec.ofText text = .ok spec)
    (parsed : Json.parse text = .ok raw) (integral : raw.Integral)
    (compiled : compile ⟨catalog, Filter.translate⟩ spec = .ok descriptor) :
    (decodeText (Descriptor.decode .text) descriptor.canonicalText =
      if descriptor.toJson.depth ≤ nestingLimit then .ok descriptor
      else .error (.malformed .nestedTooDeep)) ∧
    descriptor.toJson.depth ≤ max 5 (3 * raw.depth) := by
  rw [QuerySpec.ofText_of_parse parsed] at accepted
  cases accepted
  have within := within_of_compile ⟨integral, Nat.le_refl _⟩ compiled
  have wellFormed := wellFormed_of_parse parsed
  exact ⟨decodeText_canonicalText_of_wellFormed integral wellFormed compiled, within.depth_le⟩

/-- With 123 negations the descriptor is nested up to the limit and still read back. -/
theorem decodeText_canonicalText_at_limit :
    QuerySpec.ofText (filteredQuery (negatedExpression 123)).compact =
        .ok (.ofJson (filteredQuery (negatedExpression 123))) ∧
      Json.parse (filteredQuery (negatedExpression 123)).compact =
        .ok (filteredQuery (negatedExpression 123)) ∧
      (filteredQuery (negatedExpression 123)).Integral ∧
      compile ⟨fun _ => .ok none, Filter.translate⟩
          (.ofJson (filteredQuery (negatedExpression 123))) =
        .ok (filteredDescriptor (negatedPredicate 123)) ∧
      (filteredDescriptor (negatedPredicate 123)).toJson.depth = nestingLimit ∧
      decodeText (Descriptor.decode .text)
          (filteredDescriptor (negatedPredicate 123)).canonicalText =
        .ok (filteredDescriptor (negatedPredicate 123)) := by
  have parsed := parse_negatedExpression 123 (by decide)
  have accepted := QuerySpec.ofText_of_parse parsed
  have integral := integral_negatedExpression 123
  have compiled := compile_negatedExpression (fun _ => .ok none) 123
  have atLimit : (filteredDescriptor (negatedPredicate 123)).toJson.depth = nestingLimit := by
    rw [depth_filteredDescriptor, depth_negatedPredicate]
    rfl
  obtain ⟨readBack, _⟩ := decodeText_canonicalText_of_compile accepted parsed integral compiled
  rw [if_pos (Nat.le_of_eq atLimit)] at readBack
  exact ⟨accepted, parsed, integral, compiled, atLimit, readBack⟩

/-- Query texts whose numbers are integers are accepted and compiled, but the descriptors
are not read back from their texts: one with 124 negations is refused, and an integer of
more than 64 bits comes back as another double. -/
theorem compiled_descriptor_not_read_back :
    (QuerySpec.ofText (filteredQuery (negatedExpression 124)).compact =
        .ok (.ofJson (filteredQuery (negatedExpression 124))) ∧
      Json.parse (filteredQuery (negatedExpression 124)).compact =
        .ok (filteredQuery (negatedExpression 124)) ∧
      (filteredQuery (negatedExpression 124)).Integral ∧
      compile ⟨fun _ => .ok none, Filter.translate⟩
          (.ofJson (filteredQuery (negatedExpression 124))) =
        .ok (filteredDescriptor (negatedPredicate 124)) ∧
      decodeText (Descriptor.decode .text)
          (filteredDescriptor (negatedPredicate 124)).canonicalText =
        .error (.malformed .nestedTooDeep)) ∧
    (QuerySpec.ofText wideIntegerText =
        .ok (.ofJson (filteredQuery (amountExpression roundedAmount))) ∧
      compile ⟨fun _ => .ok none, Filter.translate⟩
          (.ofJson (filteredQuery (amountExpression roundedAmount))) =
        .ok (filteredDescriptor (amountPredicate roundedAmount)) ∧
      ∃ other, decodeText (Descriptor.decode .text)
          (filteredDescriptor (amountPredicate roundedAmount)).canonicalText = .ok other ∧
        other ≠ filteredDescriptor (amountPredicate roundedAmount)) := by
  have parsed := parse_negatedExpression 124 (by decide)
  have accepted := QuerySpec.ofText_of_parse parsed
  have wideAccepted := QuerySpec.ofText_of_parse parse_wideIntegerText
  exact ⟨⟨accepted, parsed, integral_negatedExpression 124, compile_negatedExpression _ 124,
    decodeText_negatedPredicate 124⟩,
    wideAccepted, compile_amountExpression roundedAmount, decodeText_roundedAmount⟩

end QueryCompiler
