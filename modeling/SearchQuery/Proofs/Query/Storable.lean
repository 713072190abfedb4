import SearchQuery.Proofs.Json.Valid
import SearchQuery.Query.Decode
/-!
# Storable queries

What a query may hold so that its stored form can say it: finite numbers, optional values that are
not null, and values of clauses that are not themselves taken for an instant. A script condition
has options of its own, whose name in the stored form is that of the options of its clause.
-/

namespace SearchQuery

/-- A value that can be stored where null stands for nothing. -/
def Json.ValidSome (value : Json) : Prop := value.Valid ∧ value.isNull = false

/-- A clause value that can be stored: an instant, or a value that is not taken for one. -/
def ClauseValue.Storable : ClauseValue → Prop
  | .instant _ => True
  | .plain value => value.Valid ∧ ClauseValue.instant? (.ofJson value) = none

/-- Clause options that can be stored. -/
structure ClauseOptions.Storable (options : ClauseOptions) : Prop where
  boost : ∀ boost ∈ options.boost, boost.isFinite = true
  innerHits : ∀ settings ∈ options.innerHits, settings.ValidSome

theorem empty_options : ({} : ClauseOptions).Storable := by
  constructor <;> simp

/-- A searched field that can be stored. -/
def SearchField.Storable (field : SearchField) : Prop :=
  ∀ boost ∈ field.boost, boost.isFinite = true

/-- A sort that can be stored. -/
def SortKind.Storable : SortKind → Prop
  | .value missing _ => ∀ value ∈ missing, value.ValidSome
  | .distance coordinates .. => coordinates.Valid

/-- A count that can be stored. -/
def CountStorable (count : Option Nat) : Prop := ∀ n ∈ count, n < 2 ^ 64

mutual

/-- A query that can be stored. -/
def Query.Storable : Query → Prop
  | { wheres, filters, postFilters, aggregations, orders, limit, offset, .. } =>
    ClausesStorable wheres ∧ ClausesStorable filters ∧ ClausesStorable postFilters ∧
      AggregationsStorable aggregations ∧ (∀ key ∈ orders, key.kind.Storable) ∧
      CountStorable limit ∧ CountStorable offset

/-- Clauses that can be stored. -/
def ClausesStorable : List Clause → Prop
  | [] => True
  | { condition, options, .. } :: rest =>
    (condition.Storable ∧ options.Storable) ∧ ClausesStorable rest

/-- A condition that can be stored. -/
def Condition.Storable : Condition → Prop
  | .compare _ _ value _ | .date _ _ value | .parentId _ value => value.Storable
  | .isIn _ values | .isNotIn _ values => ∀ value ∈ values, value.Storable
  | .between _ low high _ => low.Storable ∧ high.Storable
  | .datePart _ _ _ value => -(2 ^ 63) ≤ value ∧ value < 2 ^ 63
  | .geoDistance _ location _ => location.Valid
  | .geoBounds _ bounds => bounds.Valid
  | .nested _ query _ | .group query | .not query | .related _ _ query => query.Storable
  | .script _ options => (Json.obj options).Valid
  | .search _ fields _ fuzziness _ =>
    (∀ field ∈ fields, field.Storable) ∧ ∀ value ∈ fuzziness, value.ValidSome
  | .functionScore _ params => (Json.obj params).Valid
  | .isNull _ | .isNotNull _ | .startsWith _ _ => True

/-- Aggregations that can be stored. -/
def AggregationsStorable : List Aggregation → Prop
  | [] => True
  | { aggregator, children, .. } :: rest =>
    (aggregator.Storable ∧ AggregationsStorable children) ∧ AggregationsStorable rest

/-- An aggregator that can be stored. -/
def Aggregator.Storable : Aggregator → Prop
  | .terms _ options | .dateHistogram _ options => (Json.obj options).Valid
  | .cardinality args | .composite args | .dateRange args => (Json.obj args).Valid
  | .filter query => query.Storable
  | .metric _ _ script => ∀ value ∈ script, value.ValidSome
  | .exists _ | .missing _ | .reverseNested | .nested _ | .children _ => True

end

section Scripts

variable (holds : Object → ClauseOptions → Prop)

mutual

/-- Whether something holds of every script clause at any depth, from the options of the script and
those of the clause. -/
def Query.OnScripts : Query → Prop
  | { wheres, filters, postFilters, aggregations, .. } =>
    ClausesOnScripts wheres ∧ ClausesOnScripts filters ∧ ClausesOnScripts postFilters ∧
      AggregationsOnScripts aggregations

/-- Whether it holds of every script among the clauses and inside of them. -/
def ClausesOnScripts : List Clause → Prop
  | [] => True
  | { condition, options, .. } :: rest =>
    Condition.OnScripts options condition ∧ ClausesOnScripts rest

/-- Whether it holds of a condition, under the options of its clause. -/
def Condition.OnScripts (options : ClauseOptions) : Condition → Prop
  | .script _ own => holds own options
  | .nested _ query _ | .group query | .not query | .related _ _ query => query.OnScripts
  | _ => True

/-- Whether it holds of every script inside of aggregations. -/
def AggregationsOnScripts : List Aggregation → Prop
  | [] => True
  | { aggregator, children, .. } :: rest =>
    (aggregator.OnScripts ∧ AggregationsOnScripts children) ∧ AggregationsOnScripts rest

/-- Whether it holds of every script inside of an aggregator. -/
def Aggregator.OnScripts : Aggregator → Prop
  | .filter query => query.OnScripts
  | _ => True

end

end Scripts

end SearchQuery
