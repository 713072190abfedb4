import SearchQuery.Proofs.Datum.Yields
import SearchQuery.Proofs.Query.ReadBack
/-!
# Decoded queries are stable

Every query that is read from a valid value can be stored, and no script in it has options of its
own: under the name `options` only the options of the clause are read. So the query is read back
from its stored form, whatever forms the value was written in.
-/

namespace SearchQuery

open Datum

/-! ### Leaves -/

theorem yields_clauseValue : Yields ClauseValue.read ClauseValue.Storable := by
  intro datum hdatum result h
  rw [ClauseValue.read] at h
  split at h
  · cases h
    trivial
  · next hplain =>
    rw [bind_eq_ok] at h
    obtain ⟨value, hread, h⟩ := h
    cases h
    obtain ⟨source, hvalid, rfl⟩ := hdatum
    simp only [readAny, toJson?_ofJson, Json.canonical_of_valid source hvalid] at hread
    cases hread
    exact ⟨hvalid, hplain⟩

theorem yields_boost :
    Yields (readOption readNumber) fun boost => ∀ part ∈ boost, part.isFinite = true :=
  yields_readOption fun datum hdatum _ => yields_readNumber datum hdatum

theorem yields_count : Yields (readOption readCount) CountStorable :=
  yields_readOption fun datum hdatum _ => yields_readCount datum hdatum

theorem yields_clauseOptions : Yields ClauseOptions.read ClauseOptions.Storable := by
  intro datum hdatum result h
  rw [ClauseOptions.read] at h
  simp only [bind_eq_ok, pure_eq_ok] at h
  obtain ⟨fields, hfields, -, -, boost, hboost, innerHits, hinner, rfl⟩ := h
  have hvalid := Fields.yields_ofDatum datum hdatum fields hfields
  exact ⟨hvalid.optional yields_boost (by simp) hboost,
    hvalid.optional yields_readOption_readAny (by simp) hinner⟩

theorem yields_searchField : Yields SearchField.read SearchField.Storable := by
  intro datum hdatum result h
  rw [SearchField.read] at h
  simp only [bind_eq_ok, pure_eq_ok] at h
  obtain ⟨fields, hfields, -, -, name, -, boost, hboost, rfl⟩ := h
  have hvalid := Fields.yields_ofDatum datum hdatum fields hfields
  exact hvalid.optional yields_boost (by simp) hboost

theorem ofValid_tagged {tags : List String} {numbered : Bool} {datum : Datum} {tag : String}
    {fields : Fields} (hdatum : datum.OfValid)
    (h : tagged tags numbered datum = .ok (tag, fields)) : fields.OfValid := by
  cases datum with
  | map members =>
    simp only [tagged, bind_eq_ok, pure_eq_ok, Prod.mk.injEq] at h
    obtain ⟨_, -, _, hfields, -, rfl⟩ := h
    exact Fields.ofValid_ofEntries hdatum.of_map hfields
  | list items =>
    cases items with
    | nil => cases h
    | cons first rest =>
      simp only [tagged, bind_eq_ok, pure_eq_ok, Prod.mk.injEq] at h
      obtain ⟨_, -, -, rfl⟩ := h
      intro item hitem
      exact hdatum.of_list item (List.mem_cons_of_mem _ hitem)
  | _ => cases h

theorem yields_sortKind (inner : Bool) : Yields (SortKind.read inner) SortKind.Storable := by
  intro datum hdatum result h
  rw [SortKind.read, bind_eq_ok] at h
  obtain ⟨⟨tag, fields⟩, htagged, h⟩ := h
  have hvalid := ofValid_tagged hdatum htagged
  dsimp only at h
  split at h
  · simp only [bind_eq_ok, pure_eq_ok] at h
    obtain ⟨-, -, missing, hmissing, mode, -, rfl⟩ := h
    exact hvalid.optional yields_readOption_readAny (by simp) hmissing
  · simp only [bind_eq_ok, pure_eq_ok] at h
    obtain ⟨-, -, coordinates, hcoordinates, unit, -, distanceType, -, rfl⟩ := h
    exact hvalid.required yields_readAny hcoordinates
  · cases h

theorem yields_sortKey (inner : Bool) :
    Yields (SortKey.read inner) fun key => key.kind.Storable := by
  intro datum hdatum result h
  rw [SortKey.read] at h
  simp only [bind_eq_ok, pure_eq_ok] at h
  obtain ⟨fields, hfields, -, -, column, -, direction, -, kind, hkind, rfl⟩ := h
  have hvalid := Fields.yields_ofDatum datum hdatum fields hfields
  refine hvalid.optional (yields_sortKind inner) ?_ hkind
  intro part hpart
  cases hpart

theorem readEntry_yields {α : Type} {members : List (Datum × Datum)} {name : String} {default : α}
    {read : Datum → Reading α} {holds : α → Prop} (hread : Yields read holds)
    (hvalid : ∀ member ∈ members, member.2.OfValid) (hdefault : holds default) {value : α}
    (h : readEntry members name default read = .ok value) : holds value := by
  rw [readEntry, bind_eq_ok] at h
  obtain ⟨found, hfound, h⟩ := h
  cases found with
  | none =>
    cases h
    exact hdefault
  | some datum =>
    obtain ⟨member, hmember, rfl⟩ := findEntry_mem hfound
    exact hread member.2 (hvalid member hmember) value h

/-! ### Conditions and aggregators -/

/-- Whether a query can be stored, and no script in it has options of its own. -/
def Query.Stable (query : Query) : Prop := query.Storable ∧ query.OnScripts (ScriptKept true)

/-- Whether a sub-query, once read, is stable. -/
def SubqueryStable (query : Reading (Option Query)) : Prop :=
  ∀ part, query = .ok (some part) → part.Stable

theorem empty_stable : ({} : Query).Stable := by
  simp [Query.Stable, Query.Storable, Query.OnScripts, ClausesStorable, AggregationsStorable,
    CountStorable, ClausesOnScripts, AggregationsOnScripts]

theorem needed_stable {query : Reading (Option Query)} (hquery : SubqueryStable query)
    {part : Query} (h : needed query = .ok part) : part.Stable := by
  rw [needed, bind_eq_ok] at h
  obtain ⟨found, hfound, h⟩ := h
  cases found with
  | none => cases h
  | some other =>
    cases h
    exact hquery part hfound

/-- A condition that is read from valid fields is stable, if its sub-query is and `options` is no
name of a field. -/
theorem condition_stable {tag : String} {fields : Fields} {query : Reading (Option Query)}
    (options : ClauseOptions) {condition : Condition} (hfields : fields.OfValid)
    (hoptions : ∀ position, fields.get position "options" = .ok none)
    (hquery : SubqueryStable query) (h : Condition.ofFields tag fields query = .ok condition) :
    condition.Storable ∧ Condition.OnScripts (ScriptKept true) options condition := by
  unfold Condition.ofFields at h
  split at h <;> simp only [bind_eq_ok, pure_eq_ok, reduceCtorEq] at h
  · obtain ⟨-, -, column, -, operator, -, value, hvalue, negate, -, rfl⟩ := h
    have hnull : ClauseValue.null.Storable := ⟨trivial, rfl⟩
    exact ⟨hfields.optional yields_clauseValue hnull hvalue, trivial⟩
  · obtain ⟨-, -, column, -, values, hvalues, rfl⟩ := h
    exact ⟨hfields.required (yields_readList yields_clauseValue) hvalues, trivial⟩
  · obtain ⟨-, -, column, -, values, hvalues, rfl⟩ := h
    exact ⟨hfields.required (yields_readList yields_clauseValue) hvalues, trivial⟩
  · obtain ⟨-, -, column, -, low, hlow, high, hhigh, negate, -, rfl⟩ := h
    have hlow := hfields.required yields_clauseValue hlow
    have hhigh := hfields.required yields_clauseValue hhigh
    exact ⟨⟨hlow, hhigh⟩, trivial⟩
  · obtain ⟨-, -, column, -, rfl⟩ := h
    exact ⟨trivial, trivial⟩
  · obtain ⟨-, -, column, -, rfl⟩ := h
    exact ⟨trivial, trivial⟩
  · obtain ⟨-, -, column, -, operator, -, value, hvalue, rfl⟩ := h
    exact ⟨hfields.required yields_clauseValue hvalue, trivial⟩
  · obtain ⟨-, -, column, -, part, -, operator, -, value, hvalue, rfl⟩ := h
    exact ⟨hfields.required yields_readInt hvalue, trivial⟩
  · obtain ⟨-, -, column, -, location, hlocation, distance, -, rfl⟩ := h
    exact ⟨hfields.required yields_readAny hlocation, trivial⟩
  · obtain ⟨-, -, column, -, bounds, hbounds, rfl⟩ := h
    exact ⟨hfields.required yields_readAny hbounds, trivial⟩
  · obtain ⟨-, -, column, -, part, hpart, negate, -, rfl⟩ := h
    exact needed_stable hquery hpart
  · obtain ⟨-, -, part, hpart, rfl⟩ := h
    exact needed_stable hquery hpart
  · obtain ⟨-, -, part, hpart, rfl⟩ := h
    exact needed_stable hquery hpart
  · obtain ⟨-, -, relation, -, documentType, -, part, hpart, rfl⟩ := h
    exact needed_stable hquery hpart
  · obtain ⟨-, -, parentType, -, id, hid, rfl⟩ := h
    exact ⟨hfields.required yields_clauseValue hid, trivial⟩
  · obtain ⟨-, -, source, -, own, hown, rfl⟩ := h
    rw [optional_none (hoptions 1), Except.ok.injEq] at hown
    subst hown
    exact ⟨⟨.nil, trivial⟩, rfl, .inl rfl⟩
  · obtain ⟨-, -, text, -, searched, hsearched, matchType, -, fuzziness, hfuzziness, score, -,
      rfl⟩ := h
    have hsearched := hfields.optional (yields_readList yields_searchField) (by simp) hsearched
    have hfuzziness := hfields.optional yields_readOption_readAny (by simp) hfuzziness
    exact ⟨⟨hsearched, hfuzziness⟩, trivial⟩
  · obtain ⟨-, -, column, -, value, -, rfl⟩ := h
    exact ⟨trivial, trivial⟩
  · obtain ⟨-, -, functionType, -, params, hparams, rfl⟩ := h
    exact ⟨hfields.optional yields_readObject ⟨.nil, trivial⟩ hparams, trivial⟩

/-- An aggregator that is read from valid fields is stable, if its sub-query is. -/
theorem aggregator_stable {tag : String} {fields : Fields} {query : Reading (Option Query)}
    {aggregator : Aggregator} (hfields : fields.OfValid) (hquery : SubqueryStable query)
    (h : Aggregator.ofFields tag fields query = .ok aggregator) :
    aggregator.Storable ∧ aggregator.OnScripts (ScriptKept true) := by
  have hnil : (Json.obj []).Valid := ⟨.nil, trivial⟩
  unfold Aggregator.ofFields at h
  split at h <;> simp only [bind_eq_ok, pure_eq_ok, reduceCtorEq] at h
  · obtain ⟨-, -, field, -, options, hoptions, rfl⟩ := h
    exact ⟨hfields.optional yields_readObject hnil hoptions, trivial⟩
  · obtain ⟨-, -, field, -, options, hoptions, rfl⟩ := h
    exact ⟨hfields.optional yields_readObject hnil hoptions, trivial⟩
  · obtain ⟨-, -, args, hargs, rfl⟩ := h
    exact ⟨hfields.optional yields_readObject hnil hargs, trivial⟩
  · obtain ⟨-, -, args, hargs, rfl⟩ := h
    exact ⟨hfields.optional yields_readObject hnil hargs, trivial⟩
  · obtain ⟨-, -, args, hargs, rfl⟩ := h
    exact ⟨hfields.optional yields_readObject hnil hargs, trivial⟩
  · obtain ⟨-, -, field, -, rfl⟩ := h
    exact ⟨trivial, trivial⟩
  · obtain ⟨-, -, field, -, rfl⟩ := h
    exact ⟨trivial, trivial⟩
  · obtain ⟨-, -, rfl⟩ := h
    exact ⟨trivial, trivial⟩
  · obtain ⟨-, -, path, -, rfl⟩ := h
    exact ⟨trivial, trivial⟩
  · obtain ⟨-, -, documentType, -, rfl⟩ := h
    exact ⟨trivial, trivial⟩
  · obtain ⟨-, -, found, hfound, rfl⟩ := h
    cases found with
    | none => exact empty_stable
    | some part => exact hquery part hfound
  · obtain ⟨-, -, metric, -, field, -, script, hscript, rfl⟩ := h
    exact ⟨hfields.optional yields_readOption_readAny (by simp) hscript, trivial⟩

/-! ### Queries -/

/-- Whether a clause can be stored, and no script in it has options of its own. -/
def Clause.Stable (clause : Clause) : Prop :=
  (clause.condition.Storable ∧ clause.options.Storable) ∧
    Condition.OnScripts (ScriptKept true) clause.options clause.condition

/-- Whether clauses can be stored, and no script among them has options of its own. -/
def ClausesStable (clauses : List Clause) : Prop :=
  ClausesStorable clauses ∧ ClausesOnScripts (ScriptKept true) clauses

/-- Whether an aggregation can be stored, and no script in it has options of its own. -/
def Aggregation.Stable (aggregation : Aggregation) : Prop :=
  (aggregation.aggregator.Storable ∧ AggregationsStorable aggregation.children) ∧
    aggregation.aggregator.OnScripts (ScriptKept true) ∧
      AggregationsOnScripts (ScriptKept true) aggregation.children

/-- Whether aggregations can be stored, and no script in them has options of its own. -/
def AggregationsStable (aggregations : List Aggregation) : Prop :=
  AggregationsStorable aggregations ∧ AggregationsOnScripts (ScriptKept true) aggregations

theorem clausesStable_nil : ClausesStable [] := ⟨trivial, trivial⟩

theorem clausesStable_cons {clause : Clause} {rest : List Clause} (hclause : clause.Stable)
    (hrest : ClausesStable rest) : ClausesStable (clause :: rest) := by
  cases clause
  exact ⟨⟨hclause.1, hrest.1⟩, hclause.2, hrest.2⟩

theorem aggregationsStable_nil : AggregationsStable [] := ⟨trivial, trivial⟩

theorem aggregationsStable_cons {aggregation : Aggregation} {rest : List Aggregation}
    (haggregation : aggregation.Stable) (hrest : AggregationsStable rest) :
    AggregationsStable (aggregation :: rest) := by
  cases aggregation
  exact ⟨⟨haggregation.1, hrest.1⟩, haggregation.2, hrest.2⟩

theorem fields_stable {inner : Bool} {fields : Fields} {wheres filters postFilters : List Clause}
    {aggregations : List Aggregation} {query : Query} (hfields : fields.OfValid)
    (hwheres : ClausesStable wheres) (hfilters : ClausesStable filters)
    (hpost : ClausesStable postFilters) (haggregations : AggregationsStable aggregations)
    (h : Query.ofFields inner fields wheres filters postFilters aggregations = .ok query) :
    query.Stable := by
  rw [Query.ofFields] at h
  simp only [bind_eq_ok, pure_eq_ok] at h
  obtain ⟨-, -, collection, -, orders, horders, columns, -, limit, hlimit, offset, hoffset, options,
    -, rfl⟩ := h
  have hnone : CountStorable none := by
    intro n hn
    cases hn
  have horders := hfields.optional (yields_readList (yields_sortKey inner)) (by simp) horders
  have hlimit := hfields.optional yields_count hnone hlimit
  have hoffset := hfields.optional yields_count hnone hoffset
  exact ⟨⟨hwheres.1, hfilters.1, hpost.1, haggregations.1, horders, hlimit, hoffset⟩,
    hwheres.2, hfilters.2, hpost.2, haggregations.2⟩

/-- Whether all that is read from the data is stable. -/
structure ReadsStable (datum : Datum) : Prop where
  query : ∀ inner query, Query.read inner datum = .ok query → query.Stable
  clause : ∀ inner clause, Clause.read inner datum = .ok clause → clause.Stable
  clauses : ∀ inner clauses, readClauses inner datum = .ok clauses → ClausesStable clauses
  aggregation : ∀ inner aggregation, Aggregation.read inner datum = .ok aggregation →
    aggregation.Stable
  aggregations : ∀ inner aggregations, readAggregations inner datum = .ok aggregations →
    AggregationsStable aggregations

section Items

variable {inner : Bool} {items : List Datum} (hitems : ∀ item ∈ items, ReadsStable item)

include hitems

theorem clauses_at_stable (position : Nat) {clauses : List Clause}
    (h : readClausesAt inner position items = .ok clauses) : ClausesStable clauses := by
  induction items generalizing position with
  | nil =>
    cases position <;> cases h <;> exact clausesStable_nil
  | cons item rest ih =>
    cases position with
    | zero => exact (hitems item List.mem_cons_self).clauses inner clauses h
    | succ position => exact ih (fun other hother => hitems other (.tail _ hother)) position h

theorem aggregations_at_stable (position : Nat) {aggregations : List Aggregation}
    (h : readAggregationsAt inner position items = .ok aggregations) :
    AggregationsStable aggregations := by
  induction items generalizing position with
  | nil =>
    cases position <;> cases h <;> exact aggregationsStable_nil
  | cons item rest ih =>
    cases position with
    | zero => exact (hitems item List.mem_cons_self).aggregations inner aggregations h
    | succ position => exact ih (fun other hother => hitems other (.tail _ hother)) position h

theorem clause_items_stable {clauses : List Clause}
    (h : readClauseItems inner items = .ok clauses) : ClausesStable clauses := by
  induction items generalizing clauses with
  | nil =>
    cases h
    exact clausesStable_nil
  | cons item rest ih =>
    simp only [readClauseItems, bind_eq_ok, pure_eq_ok] at h
    obtain ⟨clause, hclause, others, hothers, rfl⟩ := h
    apply clausesStable_cons
    · exact (hitems item List.mem_cons_self).clause inner clause hclause
    · exact ih (fun other hother => hitems other (.tail _ hother)) hothers

theorem aggregation_items_stable {aggregations : List Aggregation}
    (h : readAggregationItems inner items = .ok aggregations) :
    AggregationsStable aggregations := by
  induction items generalizing aggregations with
  | nil =>
    cases h
    exact aggregationsStable_nil
  | cons item rest ih =>
    simp only [readAggregationItems, bind_eq_ok, pure_eq_ok] at h
    obtain ⟨aggregation, haggregation, others, hothers, rfl⟩ := h
    apply aggregationsStable_cons
    · exact (hitems item List.mem_cons_self).aggregation inner aggregation haggregation
    · exact ih (fun other hother => hitems other (.tail _ hother)) hothers

theorem list_stable (hvalid : (Datum.list items).OfValid) : ReadsStable (.list items) where
  query inner query h := by
    simp only [Query.read, bind_eq_ok] at h
    obtain ⟨wheres, hwheres, filters, hfilters, postFilters, hpost, aggregations, haggregations,
      h⟩ := h
    have hwheres := clauses_at_stable hitems 1 hwheres
    have hfilters := clauses_at_stable hitems 2 hfilters
    have hpost := clauses_at_stable hitems 3 hpost
    have haggregations := aggregations_at_stable hitems 4 haggregations
    have hfields : (Fields.positional items).OfValid := hvalid.of_list
    exact fields_stable hfields hwheres hfilters hpost haggregations h
  clause inner clause h := by cases h
  clauses inner clauses h := clause_items_stable hitems h
  aggregation inner aggregation h := by cases h
  aggregations inner aggregations h := aggregation_items_stable hitems h

end Items

section Members

variable {inner : Bool} {members : List (Datum × Datum)} {wanted : Datum → Bool}
  (hmembers : ∀ member ∈ members, ReadsStable member.2)

include hmembers

theorem clauses_under_stable {clauses : List Clause}
    (h : readClausesUnder inner wanted members = .ok clauses) : ClausesStable clauses := by
  rw [readClausesUnder_eq, bind_eq_ok] at h
  obtain ⟨found, hfound, h⟩ := h
  cases found with
  | none =>
    cases h
    exact clausesStable_nil
  | some datum =>
    obtain ⟨member, hmember, rfl⟩ := findEntry_mem hfound
    exact (hmembers member hmember).clauses inner clauses h

theorem aggregations_under_stable {aggregations : List Aggregation}
    (h : readAggregationsUnder inner wanted members = .ok aggregations) :
    AggregationsStable aggregations := by
  rw [readAggregationsUnder_eq, bind_eq_ok] at h
  obtain ⟨found, hfound, h⟩ := h
  cases found with
  | none =>
    cases h
    exact aggregationsStable_nil
  | some datum =>
    obtain ⟨member, hmember, rfl⟩ := findEntry_mem hfound
    exact (hmembers member hmember).aggregations inner aggregations h

theorem query_under_stable : SubqueryStable (readQueryUnder wanted members) := by
  intro part h
  rw [readQueryUnder_eq, bind_eq_ok] at h
  obtain ⟨found, hfound, h⟩ := h
  cases found with
  | none => cases h
  | some datum =>
    obtain ⟨member, hmember, rfl⟩ := findEntry_mem hfound
    exact (hmembers member hmember).query true part (map_some_eq_ok.mp h)

theorem map_stable (hvalid : (Datum.map members).OfValid) : ReadsStable (.map members) where
  query inner query h := by
    simp only [Query.read, bind_eq_ok] at h
    obtain ⟨fields, hfields, wheres, hwheres, filters, hfilters, postFilters, hpost, aggregations,
      haggregations, h⟩ := h
    have hfields := Fields.ofValid_ofEntries hvalid.of_map hfields
    have hwheres := clauses_under_stable hmembers hwheres
    have hfilters := clauses_under_stable hmembers hfilters
    have hpost := clauses_under_stable hmembers hpost
    have haggregations := aggregations_under_stable hmembers haggregations
    exact fields_stable hfields hwheres hfilters hpost haggregations h
  clause inner clause h := by
    simp only [clause_read_eq, bind_eq_ok, pure_eq_ok] at h
    obtain ⟨tag, -, junction, -, options, hoptions, fields, hfields, condition, hcondition,
      rfl⟩ := h
    have hoptions := readEntry_yields yields_clauseOptions hvalid.of_map empty_options hoptions
    rw [conditionMembers, fields_ofEntries (hvalid.named.filter _), ← conditionMembers,
      Except.ok.injEq] at hfields
    subst hfields
    have hkept : (Fields.keyed (conditionMembers members)).OfValid := fun member hmember =>
      hvalid.of_map member (List.mem_filter.mp hmember).1
    obtain ⟨hstorable, hscripts⟩ := condition_stable options hkept
      (get_options_conditionMembers hvalid.named) (query_under_stable hmembers) hcondition
    exact ⟨⟨hstorable, hoptions⟩, hscripts⟩
  clauses inner clauses h := by cases h
  aggregation inner aggregation h := by
    simp only [Aggregation.read, bind_eq_ok] at h
    obtain ⟨found, hfound, h⟩ := h
    cases found with
    | none => cases h
    | some datum =>
      simp only [bind_eq_ok, pure_eq_ok] at h
      obtain ⟨key, -, children, hchildren, tag, -, fields, hfields, aggregator, haggregator,
        rfl⟩ := h
      have hfields := Fields.ofValid_ofEntries hvalid.of_map hfields
      obtain ⟨hstorable, hscripts⟩ :=
        aggregator_stable hfields (query_under_stable hmembers) haggregator
      have hchildren := aggregations_under_stable hmembers hchildren
      exact ⟨⟨hstorable, hchildren.1⟩, hscripts, hchildren.2⟩
  aggregations inner aggregations h := by cases h

end Members

mutual

/-- Whatever is read from valid data is stable. -/
theorem reads_stable : (datum : Datum) → datum.OfValid → ReadsStable datum
  | .list items, h => list_stable (items_reads_stable items h.of_list) h
  | .map members, h => map_stable (members_reads_stable members h.of_map) h
  | .null, _ | .bool _, _ | .count _, _ | .signed _, _ | .float _, _ | .str _, _ => by
    constructor <;> intro _ _ h <;> cases h

theorem items_reads_stable : (items : List Datum) → (∀ item ∈ items, item.OfValid) →
    ∀ item ∈ items, ReadsStable item
  | [], _ => by simp
  | item :: rest, h => by
    have hitem := reads_stable item (h item List.mem_cons_self)
    have hrest := items_reads_stable rest fun other hother => h other (.tail _ hother)
    rintro other (_ | ⟨_, hother⟩)
    · exact hitem
    · exact hrest other hother

theorem members_reads_stable : (members : List (Datum × Datum)) →
    (∀ member ∈ members, member.2.OfValid) → ∀ member ∈ members, ReadsStable member.2
  | [], _ => by simp
  | (key, value) :: rest, h => by
    have hvalue := reads_stable value (h (key, value) List.mem_cons_self)
    have hrest := members_reads_stable rest fun other hother => h other (.tail _ hother)
    rintro other (_ | ⟨_, hother⟩)
    · exact hvalue
    · exact hrest other hother

end

/-- A query that was read from a value is read back from its stored form. -/
theorem Query.ofJson_toJson_of_ofJson {value : Json} {query : Query} (h : value.Valid)
    (hread : Query.ofJson value = .ok query) :
    Query.ofJson query.toJson.canonical = .ok query := by
  have hreads := reads_stable (.ofJson value) ⟨value, h, rfl⟩
  obtain ⟨hstorable, hscripts⟩ := hreads.query false query hread
  exact (@query_written true query hstorable false).mpr hscripts

/-- A clause whose value is an instant in a list. -/
def listedInstant : Object :=
  [("column", .str "at"), ("operator", .str "<"), ("type", .str "date"),
    ("value", .arr [.str "2024-01-01 00:30:00.5+01:00"])]

/-- A clause whose options are a list. -/
def listedOptions : Object :=
  [("boolean", .obj [("or", .null)]), ("options", .arr [.int 2]), ("source", .str "1"),
    ("type", .str "script")]

/-- A query as a list of its members. -/
def positionalQuery : Json :=
  .arr [.str "posts", .arr [.obj listedInstant, .obj listedOptions]]

/-- What is read from it. -/
def positionalQueryRead : Query where
  collection := "posts"
  wheres := [
    { condition := .date "at" .lt (.instant
        { date := ⟨2023, 12, 31, rfl⟩, hour := 23, minute := 30, second := 0,
          nanosecond := 500000000, hour_lt := by decide, minute_lt := by decide,
          second_le := by decide, nanosecond_lt := by decide }) },
    { condition := .script "1" [], junction := .or, options := { boost := some (.ofInt 2) } }]

theorem positionalQuery_valid : positionalQuery.Valid := by
  have hinstant : listedInstant.Sorted := by
    unfold Object.Sorted
    decide
  have hoptions : listedOptions.Sorted := by
    unfold Object.Sorted
    decide
  have hword : Object.Sorted [("or", .null)] := List.pairwise_singleton _ _
  have hvalues : Json.EntriesValid listedInstant := by
    simp [listedInstant, Json.EntriesValid, Json.Valid, Json.ItemsValid]
  have hothers : Json.EntriesValid listedOptions := by
    simp [listedOptions, Json.EntriesValid, Json.Valid, Json.ItemsValid, hword]
  exact ⟨trivial, ⟨⟨hinstant, hvalues⟩, ⟨hoptions, hothers⟩, trivial⟩, trivial⟩

theorem ofJson_toJson_positionalQuery :
    positionalQuery.Valid ∧ Query.ofJson positionalQuery = .ok positionalQueryRead ∧
      Query.ofJson positionalQueryRead.toJson.canonical = .ok positionalQueryRead := by
  have hread : Query.ofJson positionalQuery = .ok positionalQueryRead := rfl
  exact ⟨positionalQuery_valid, hread, Query.ofJson_toJson_of_ofJson positionalQuery_valid hread⟩

end SearchQuery
