import SearchQuery.Proofs.Except
import SearchQuery.Proofs.Query.Storable
import SearchQuery.Query.Build
/-!
# Built queries can be stored

A query that is built from parts that can be stored can be stored itself, whatever is added in
which order.
-/

namespace SearchQuery

theorem clausesStorable_iff (clauses : List Clause) :
    ClausesStorable clauses ↔
      ∀ clause ∈ clauses, clause.condition.Storable ∧ clause.options.Storable := by
  induction clauses with
  | nil => simp [ClausesStorable]
  | cons clause rest ih =>
    cases clause
    simp [ClausesStorable, ih]

theorem aggregationsStorable_iff (aggregations : List Aggregation) :
    AggregationsStorable aggregations ↔ ∀ aggregation ∈ aggregations,
      aggregation.aggregator.Storable ∧ AggregationsStorable aggregation.children := by
  induction aggregations with
  | nil => simp [AggregationsStorable]
  | cons aggregation rest ih =>
    cases aggregation
    simp [AggregationsStorable, ih]

theorem query_storable_iff (query : Query) :
    query.Storable ↔ ClausesStorable query.wheres ∧ ClausesStorable query.filters ∧
      ClausesStorable query.postFilters ∧ AggregationsStorable query.aggregations ∧
      (∀ key ∈ query.orders, key.kind.Storable) ∧ CountStorable query.limit ∧
      CountStorable query.offset := by
  cases query
  rw [Query.Storable]

theorem fresh_storable (collection : String) : ({ collection } : Query).Storable := by
  simp [query_storable_iff, ClausesStorable, AggregationsStorable, CountStorable]

/-! ### Arguments of aggregations -/

theorem withArgument_storable {aggregator : Aggregator} (h : aggregator.Storable) (name : String)
    {value : Json} (hvalue : value.Valid) : (aggregator.withArgument name value).Storable := by
  cases aggregator with
  | terms | dateHistogram | cardinality | composite | dateRange =>
    exact Json.Valid.insert h name hvalue
  | _ => exact h

theorem withBounds_storable {aggregator : Aggregator} (h : aggregator.Storable)
    {min max : ClauseValue} (hmin : min.Storable) (hmax : max.Storable) :
    (aggregator.withBounds min max).Storable := by
  have hvalid : ∀ value : ClauseValue, value.Storable → value.toJson.Valid := by
    intro value hvalue
    cases value with
    | instant time => exact ⟨List.pairwise_singleton _ _, trivial, trivial⟩
    | plain value => exact hvalue.1
  exact withArgument_storable h _ ⟨hvalid min hmin, hvalid max hmax, trivial⟩

/-! ### Additions -/

mutual

/-- Whether a step adds only what can be stored. -/
def BuildStep.Storable : BuildStep → Prop
  | .push clause => clause.condition.Storable ∧ clause.options.Storable
  | .nest _ _ steps | .filter steps | .postFilter steps => StepsStorable steps
  | .aggregate aggregation =>
    aggregation.aggregator.Storable ∧ AggregationsStorable aggregation.children

/-- Whether steps add only what can be stored. -/
def StepsStorable : List BuildStep → Prop
  | [] => True
  | step :: rest => step.Storable ∧ StepsStorable rest

end

theorem push_storable {query : Query} {clause : Clause} (h : query.Storable)
    (hcondition : clause.condition.Storable) (hoptions : clause.options.Storable) :
    (query.push clause).Storable := by
  rw [query_storable_iff] at h ⊢
  obtain ⟨hwheres, hrest⟩ := h
  refine ⟨?_, hrest⟩
  rw [clausesStorable_iff] at hwheres ⊢
  intro other hother
  rcases List.mem_append.mp hother with hother | hother
  · exact hwheres other hother
  · obtain rfl := List.mem_singleton.mp hother
    exact ⟨hcondition, hoptions⟩

theorem move_storable {clauses others : List Clause} (start : Nat) (h : ClausesStorable clauses)
    (hothers : ClausesStorable others) :
    ClausesStorable (clauses.take start) ∧ ClausesStorable (others ++ clauses.drop start) := by
  rw [clausesStorable_iff] at h hothers
  rw [clausesStorable_iff, clausesStorable_iff]
  constructor
  · intro clause hclause
    exact h clause (List.mem_of_mem_take hclause)
  · intro clause hclause
    rcases List.mem_append.mp hclause with hclause | hclause
    · exact hothers clause hclause
    · exact h clause (List.mem_of_mem_drop hclause)

theorem nesting_storable (nesting : Nesting) {query : Query} (h : query.Storable) :
    (nesting.condition query).Storable := by
  cases nesting <;> exact h

mutual

theorem build_storable : (step : BuildStep) → step.Storable → (query : Query) → query.Storable →
    (query.build step).Storable
  | .push clause, hstep, query, h => by
    rw [BuildStep.Storable] at hstep
    rw [Query.build]
    exact push_storable h hstep.1 hstep.2
  | .nest nesting junction steps, hstep, query, h => by
    rw [BuildStep.Storable] at hstep
    rw [Query.build]
    have hinner := buildAll_storable steps hstep _ (fresh_storable query.collection)
    exact push_storable h (nesting_storable nesting hinner) empty_options
  | .filter steps, hstep, query, h => by
    rw [BuildStep.Storable] at hstep
    have hbuilt := (query_storable_iff _).mp (buildAll_storable steps hstep query h)
    obtain ⟨hwheres, hfilters, hrest⟩ := hbuilt
    obtain ⟨hfront, hmoved⟩ := move_storable query.wheres.length hwheres hfilters
    rw [Query.build, query_storable_iff]
    exact ⟨hfront, hmoved, hrest⟩
  | .postFilter steps, hstep, query, h => by
    rw [BuildStep.Storable] at hstep
    have hbuilt := (query_storable_iff _).mp (buildAll_storable steps hstep query h)
    obtain ⟨hwheres, hfilters, hpost, hrest⟩ := hbuilt
    obtain ⟨hfront, hmoved⟩ := move_storable query.wheres.length hwheres hpost
    rw [Query.build, query_storable_iff]
    exact ⟨hfront, hfilters, hmoved, hrest⟩
  | .aggregate aggregation, hstep, query, h => by
    rw [BuildStep.Storable] at hstep
    rw [query_storable_iff] at h
    obtain ⟨hwheres, hfilters, hpost, haggregations, hrest⟩ := h
    rw [Query.build, query_storable_iff]
    refine ⟨hwheres, hfilters, hpost, ?_, hrest⟩
    rw [aggregationsStorable_iff] at haggregations ⊢
    intro other hother
    rcases List.mem_append.mp hother with hother | hother
    · exact haggregations other hother
    · obtain rfl := List.mem_singleton.mp hother
      exact hstep

theorem buildAll_storable : (steps : List BuildStep) → StepsStorable steps → (query : Query) →
    query.Storable → (query.buildAll steps).Storable
  | [], _, _, h => h
  | step :: rest, hsteps, query, h => by
    rw [StepsStorable] at hsteps
    rw [Query.buildAll]
    exact buildAll_storable rest hsteps.2 _ (build_storable step hsteps.1 query h)

end

/-! ### Built queries -/

/-- What can be built from parts that can be stored. -/
inductive Query.Built : Query → Prop where
  | start (collection : String) : Built { collection }
  | build {query : Query} {step : BuildStep} : Built query → step.Storable →
    Built (query.build step)
  | select {query : Query} (columns : List String) : Built query → Built (query.select columns)
  | limit {query : Query} {limit : Nat} : Built query → limit < 2 ^ 64 →
    Built (query.withLimit limit)
  | offset {query : Query} {offset : Nat} : Built query → offset < 2 ^ 64 →
    Built (query.withOffset offset)
  | orderBy {query : Query} {key : SortKey} : Built query → key.kind.Storable →
    Built (query.orderBy key)
  | routing {query : Query} (routing : String) : Built query → Built (query.withRouting routing)
  | parentId {query : Query} (parentId : String) : Built query →
    Built (query.withParentId parentId)
  | innerHits {query : Query} : Built query → Built query.withInnerHits
  | conflicts {query next : Query} {text : String} : Built query →
    query.onConflicts text = .ok next → Built next
  | refresh {query next : Query} {text : String} : Built query →
    query.withRefresh text = .ok next → Built next

/-- Built queries can be stored. -/
theorem Query.Built.storable {query : Query} (h : query.Built) : query.Storable := by
  induction h with
  | start collection => exact fresh_storable collection
  | build _ hstep ih => exact build_storable _ hstep _ ih
  | select columns _ ih | routing routing _ ih | parentId parentId _ ih | innerHits _ ih =>
    rw [query_storable_iff] at ih ⊢
    exact ih
  | limit _ hlimit ih =>
    rw [query_storable_iff] at ih ⊢
    obtain ⟨hwheres, hfilters, hpost, haggregations, horders, -, hoffset⟩ := ih
    refine ⟨hwheres, hfilters, hpost, haggregations, horders, ?_, hoffset⟩
    intro n hn
    obtain rfl := Option.some.inj hn
    exact hlimit
  | offset _ hoffset ih =>
    rw [query_storable_iff] at ih ⊢
    obtain ⟨hwheres, hfilters, hpost, haggregations, horders, hlimit, -⟩ := ih
    refine ⟨hwheres, hfilters, hpost, haggregations, horders, hlimit, ?_⟩
    intro n hn
    obtain rfl := Option.some.inj hn
    exact hoffset
  | orderBy _ hkey ih =>
    rw [query_storable_iff] at ih ⊢
    obtain ⟨hwheres, hfilters, hpost, haggregations, horders, hcounts⟩ := ih
    refine ⟨hwheres, hfilters, hpost, haggregations, ?_, hcounts⟩
    intro other hother
    rcases List.mem_append.mp hother with hother | hother
    · exact horders other hother
    · obtain rfl := List.mem_singleton.mp hother
      exact hkey
  | conflicts _ hnext ih =>
    rw [Query.onConflicts, bind_eq_ok] at hnext
    obtain ⟨conflicts, -, hnext⟩ := hnext
    cases hnext
    rw [query_storable_iff] at ih ⊢
    exact ih
  | refresh _ hnext ih =>
    rw [Query.withRefresh, bind_eq_ok] at hnext
    obtain ⟨refresh, -, hnext⟩ := hnext
    cases hnext
    rw [query_storable_iff] at ih ⊢
    exact ih

end SearchQuery
