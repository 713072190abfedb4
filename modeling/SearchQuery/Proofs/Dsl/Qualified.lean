import Mathlib.Data.List.Forall2
import SearchQuery.Proofs.Dsl.Column
import SearchQuery.Proofs.Dsl.Failure
/-!
# Qualified references

A query may name its columns with the collection in front, and so may the queries inside of it and
its aggregations. `Qualifies` relates a query to the same query with some of its references
qualified, each one by itself. Clauses and sort keys compile to the same either way, and so does a
failure.
-/

namespace SearchQuery

/-- A reference as it was or, if it was not qualified, qualified. -/
inductive Qualifies (collection : String) : String → String → Prop where
  | same (column : String) : Qualifies collection column column
  | qualified {column : String} (bare : ¬ IsQualified collection column) :
      Qualifies collection column (qualified collection column)

/-- The condition about another column; a condition without a column as it is. -/
def Condition.withColumn (condition : Condition) (column : String) : Condition :=
  match condition with
  | .compare _ operator value negate => .compare column operator value negate
  | .isIn _ values => .isIn column values
  | .isNotIn _ values => .isNotIn column values
  | .between _ low high negate => .between column low high negate
  | .isNull _ => .isNull column
  | .isNotNull _ => .isNotNull column
  | .date _ operator value => .date column operator value
  | .datePart _ part operator value => .datePart column part operator value
  | .geoDistance _ location distance => .geoDistance column location distance
  | .geoBounds _ bounds => .geoBounds column bounds
  | .nested _ query negate => .nested column query negate
  | .startsWith _ value => .startsWith column value
  | other => other

/-- The reference of an aggregator, if it has one: its field, the text under `field` among the
arguments, or its path. -/
def Aggregator.reference? : Aggregator → Option String
  | .terms field _ | .dateHistogram field _ | .exists field | .missing field | .metric _ field _ =>
    some field
  | .cardinality args | .dateRange args => (Object.get? args "field").bind Json.str?
  | .nested path => some path
  | _ => none

/-- The aggregator with another reference; an aggregator without a reference as it is. -/
def Aggregator.withReference (aggregator : Aggregator) (reference : String) : Aggregator :=
  match aggregator with
  | .terms _ options => .terms reference options
  | .dateHistogram _ options => .dateHistogram reference options
  | .exists _ => .exists reference
  | .missing _ => .missing reference
  | .metric operation _ script => .metric operation reference script
  | .cardinality args => .cardinality (args.insert "field" (.str reference))
  | .dateRange args => .dateRange (args.insert "field" (.str reference))
  | .nested _ => .nested reference
  | other => other

def SearchField.Qualifies (collection : String) (old new : SearchField) : Prop :=
  ∃ name, SearchQuery.Qualifies collection old.name name ∧ new = { old with name }

def SortKey.Qualifies (collection : String) (old new : SortKey) : Prop :=
  ∃ column, SearchQuery.Qualifies collection old.column column ∧ new = { old with column }

variable (collection : String)

mutual

/-- The same query with some of its references qualified. -/
inductive Query.Qualifies : Query → Query → Prop where
  | intro {query : Query} {wheres filters postFilters : List Clause}
      {aggregations : List Aggregation} {orders : List SortKey}
      (wheres_qualify : ClausesQualify query.wheres wheres)
      (filters_qualify : ClausesQualify query.filters filters)
      (postFilters_qualify : ClausesQualify query.postFilters postFilters)
      (aggregations_qualify : AggregationsQualify query.aggregations aggregations)
      (orders_qualify : List.Forall₂ (SortKey.Qualifies collection) query.orders orders) :
      Query.Qualifies query
        { query with wheres, filters, postFilters, aggregations, orders }

/-- The same clauses with some of their references qualified. -/
inductive ClausesQualify : List Clause → List Clause → Prop where
  | nil : ClausesQualify [] []
  | cons {old new : Condition} {junction : Junction} {options : ClauseOptions}
      {olds news : List Clause} (first : Condition.Qualifies old new)
      (rest : ClausesQualify olds news) :
      ClausesQualify ({ condition := old, junction, options } :: olds)
        ({ condition := new, junction, options } :: news)

/-- The same condition with some of its references qualified: its column, its searched fields, and
those of the query inside of it. -/
inductive Condition.Qualifies : Condition → Condition → Prop where
  | same (condition : Condition) : Condition.Qualifies condition condition
  | column {condition : Condition} {column : String} (has : condition.column? = some column)
      (bare : ¬ IsQualified collection column) :
      Condition.Qualifies condition (condition.withColumn (qualified collection column))
  | search {text : String} {olds news : List SearchField} {matchType : Option String}
      {fuzziness : Option Json} {constantScore : Bool}
      (fields : List.Forall₂ (SearchField.Qualifies collection) olds news) :
      Condition.Qualifies (.search text olds matchType fuzziness constantScore)
        (.search text news matchType fuzziness constantScore)
  | nested {old new : String} {oldQuery newQuery : Query} {negate : Bool}
      (column : Qualifies collection old new) (query : Query.Qualifies oldQuery newQuery) :
      Condition.Qualifies (.nested old oldQuery negate) (.nested new newQuery negate)
  | group {old new : Query} (query : Query.Qualifies old new) :
      Condition.Qualifies (.group old) (.group new)
  | not {old new : Query} (query : Query.Qualifies old new) :
      Condition.Qualifies (.not old) (.not new)
  | related {relation : Relation} {documentType : String} {old new : Query}
      (query : Query.Qualifies old new) :
      Condition.Qualifies (.related relation documentType old) (.related relation documentType new)

/-- The same aggregations with some of their references qualified. -/
inductive AggregationsQualify : List Aggregation → List Aggregation → Prop where
  | nil : AggregationsQualify [] []
  | cons {key : String} {old new : Aggregator}
      {oldChildren newChildren olds news : List Aggregation}
      (first : Aggregator.Qualifies old new)
      (children : AggregationsQualify oldChildren newChildren)
      (rest : AggregationsQualify olds news) :
      AggregationsQualify ({ key, aggregator := old, children := oldChildren } :: olds)
        ({ key, aggregator := new, children := newChildren } :: news)

/-- The same aggregator with some of its references qualified: its own, and those of the query of a
filter. -/
inductive Aggregator.Qualifies : Aggregator → Aggregator → Prop where
  | same (aggregator : Aggregator) : Aggregator.Qualifies aggregator aggregator
  | reference {aggregator : Aggregator} {reference : String}
      (has : aggregator.reference? = some reference) (bare : ¬ IsQualified collection reference) :
      Aggregator.Qualifies aggregator (aggregator.withReference (qualified collection reference))
  | filter {old new : Query} (query : Query.Qualifies old new) :
      Aggregator.Qualifies (.filter old) (.filter new)

end

namespace Dsl

variable {target : Target} {collection : String}

/-! ### References -/

theorem bareColumn_qualifies {old new : String} (hcollection : collection ≠ "")
    (h : Qualifies collection old new) : bareColumn collection old = bareColumn collection new := by
  cases h with
  | same => rfl
  | qualified bare =>
    rw [bareColumn_qualified hcollection, bareColumn_of_not_isQualified bare]

theorem searchedField_qualifies {old new : SearchField} (hcollection : collection ≠ "")
    (h : SearchField.Qualifies collection old new) :
    searchedField collection old = searchedField collection new := by
  obtain ⟨name, hname, rfl⟩ := h
  rw [searchedField, searchedField, bareColumn_qualifies hcollection hname]

theorem sortKey_qualifies {old new : SortKey} (hcollection : collection ≠ "")
    (h : SortKey.Qualifies collection old new) :
    sortKey collection old = sortKey collection new := by
  obtain ⟨column, hcolumn, rfl⟩ := h
  rw [sortKey, sortKey, bareColumn_qualifies hcollection hcolumn]

theorem map_eq_of_forall₂ {α β : Type} {R : α → α → Prop} (f : α → β) {olds news : List α}
    (hf : ∀ old new, R old new → f old = f new) (h : List.Forall₂ R olds news) :
    olds.map f = news.map f := by
  rw [← List.forall₂_eq_eq_eq, List.forall₂_map_left_iff, List.forall₂_map_right_iff]
  exact h.imp hf

/-! ### Clauses -/

/-- A condition that is about a column compiles to the same for the qualified column. -/
theorem shapeOf_withColumn {condition : Condition} {column : String} (hcollection : collection ≠ "")
    (has : condition.column? = some column) (bare : ¬ IsQualified collection column) :
    shapeOf target collection condition =
      shapeOf target collection (condition.withColumn (qualified collection column)) := by
  have hcolumn := bareColumn_qualifies hcollection (.qualified bare)
  cases condition with
  | group | not | related | parentId | script | search | functionScore => cases has
  | _ =>
    cases has
    simp only [Condition.withColumn, shapeOf, hcolumn]

theorem search_qualifies {olds news : List SearchField} (hcollection : collection ≠ "")
    (h : List.Forall₂ (SearchField.Qualifies collection) olds news) (text : String)
    (matchType : Option String) (fuzziness : Option Json) (constantScore : Bool) :
    search collection text olds matchType fuzziness constantScore =
      search collection text news matchType fuzziness constantScore := by
  rw [search, search, map_eq_of_forall₂ (searchedField collection)
    (fun _ _ => searchedField_qualifies hcollection) h]

mutual

theorem contexts_qualifies (target : Target) (hcollection : collection ≠ "") : {old new : Query} →
    old.Qualifies collection new → contexts target collection old = contexts target collection new
  | { .. }, _, .intro hwheres hfilters hpostFilters _ _ => by
    simp only [contexts, clauses_qualify target hcollection hwheres,
      clauses_qualify target hcollection hfilters, clauses_qualify target hcollection hpostFilters]

theorem clauses_qualify (target : Target) (hcollection : collection ≠ "") :
    {olds news : List Clause} → ClausesQualify collection olds news →
    clauses target collection olds = clauses target collection news
  | _, _, .nil => rfl
  | _, _, .cons first rest => by
    simp only [clauses, shapeOf_qualifies target hcollection first,
      clauses_qualify target hcollection rest]

theorem shapeOf_qualifies (target : Target) (hcollection : collection ≠ "") :
    {old new : Condition} → old.Qualifies collection new →
    shapeOf target collection old = shapeOf target collection new
  | _, _, .same _ => rfl
  | _, _, .column has bare => shapeOf_withColumn hcollection has bare
  | _, _, .search fields => by simp only [shapeOf, search_qualifies hcollection fields]
  | _, _, .nested column query => by
    simp only [shapeOf, bareColumn_qualifies hcollection column,
      contexts_qualifies target hcollection query]
  | _, _, .group query | _, _, .not query | _, _, .related query => by
    simp only [shapeOf, contexts_qualifies target hcollection query]

end

/-! ### Searches -/

theorem failure?_aggregator_qualifies {old new : Aggregator} (hcollection : collection ≠ "")
    (h : old.Qualifies collection new) : failure? (aggregator target collection old) =
      failure? (aggregator target collection new) := by
  cases h with
  | same => rfl
  | reference has bare =>
    -- Only a filter can fail, and it has no reference.
    cases old with
    | filter => cases has
    | _ => rfl
  | filter query => rw [aggregator, aggregator, contexts_qualifies target hcollection query]

theorem failure?_aggregations_cons (key : String) (kind : Aggregator)
    (children rest : List Aggregation) :
    failure? (aggregations target collection ({ key, aggregator := kind, children } :: rest)) =
      ((failure? (aggregator target collection kind)).or
        (failure? (aggregations target collection children))).or
        (failure? (aggregations target collection rest)) := by
  simp only [aggregations, failure?_aggregationsOnto, failure?_aggregator, aggregationConditions,
    Aggregation.conditions, List.findSome?_append]

theorem failure?_aggregations_qualify (target : Target) (hcollection : collection ≠ "") :
    {olds news : List Aggregation} → AggregationsQualify collection olds news →
    failure? (aggregations target collection olds) = failure? (aggregations target collection news)
  | _, _, .nil => rfl
  | _, _, .cons first children rest => by
    rw [failure?_aggregations_cons, failure?_aggregations_cons,
      failure?_aggregator_qualifies hcollection first,
      failure?_aggregations_qualify target hcollection children,
      failure?_aggregations_qualify target hcollection rest]

/-- A search without its aggregations. -/
def withoutAggregations (request : SearchRequest) : SearchRequest :=
  { request with body := { request.body with aggregations := none } }

/-- The search for a query whose contexts are compiled, without its aggregations. -/
def searchOf (target : Target) (query : Query) (compiled : Contexts) : SearchRequest where
  index := target.indexName query.collection
  body := {
    source := .ofColumns query.columns
    query := match compiled.filter with
      | some filter => some (attachFilter compiled.query filter)
      | none => compiled.query
    postFilter := compiled.postFilter
    aggregations := none
    sort := if query.orders.isEmpty then none
      else some (query.orders.map (sortKey query.collection))
    offset := query.offset.filter (0 < ·)
    size := query.limit }

/-- What a search holds besides its aggregations depends on them only where they fail. -/
theorem select_withoutAggregations (query : Query) :
    (select target query).map withoutAggregations =
      (contexts target query.collection query).bind fun compiled =>
        match failure? (aggregations target query.collection query.aggregations) with
        | some failure => .error failure
        | none => .ok (searchOf target query compiled) := by
  rw [select, body]
  cases contexts target query.collection query with
  | error => rfl
  | ok compiled =>
    cases hlist : query.aggregations with
    | nil => rfl
    | cons first rest =>
      simp only [ok_bind, List.isEmpty_cons]
      cases aggregations target query.collection (first :: rest) with
      | error => rfl
      | ok => rfl

theorem searchOf_qualifies {old new : Query} (hcollection : old.collection ≠ "")
    (h : old.Qualifies old.collection new) (compiled : Contexts) :
    searchOf target old compiled = searchOf target new compiled := by
  obtain ⟨_, _, _, _, horders⟩ := h
  have hmap := map_eq_of_forall₂ (sortKey old.collection)
    (fun _ _ => sortKey_qualifies hcollection) horders
  have hempty := congrArg List.isEmpty hmap
  rw [List.isEmpty_map, List.isEmpty_map] at hempty
  simp only [searchOf, hmap, hempty]

/-- Qualified references change neither the contexts of a query nor anything of its search besides
the aggregations, and a search that fails fails as before. No name is shortened that only begins
with the letters of the collection. -/
theorem select_of_qualified (target : Target) {old new : Query} (hcollection : old.collection ≠ "")
    (h : old.Qualifies old.collection new) :
    contexts target old.collection old = contexts target new.collection new ∧
      (select target old).map withoutAggregations = (select target new).map withoutAggregations ∧
      ∀ rest : String, rest.toList.head? ≠ some '.' →
        bareColumn old.collection (old.collection ++ rest) = old.collection ++ rest := by
  have hname : new.collection = old.collection := by
    cases h
    rfl
  have hcontexts := contexts_qualifies target hcollection h
  have hfailure : failure? (aggregations target old.collection old.aggregations) =
      failure? (aggregations target old.collection new.aggregations) := by
    obtain ⟨_, _, _, haggregations, _⟩ := h
    exact failure?_aggregations_qualify target hcollection haggregations
  refine ⟨by rw [hname, hcontexts], ?_, ?_⟩
  · simp only [select_withoutAggregations, hname, hcontexts, hfailure,
      searchOf_qualifies hcollection h]
  · intro rest hrest
    exact bareColumn_of_not_isQualified (not_isQualified_append hrest)

/-- More than three votes, in the column of that name. -/
def manyVotes (votes : String) : Condition := .compare votes .gt (.plain (.int 3)) false

/-- Posts by their text and the votes on their comments, in the order of a column. -/
def votedPosts (title comments votes created : String) : Query where
  collection := "posts"
  wheres := [
    { condition := .search "lean" [{ name := title }, { name := "body" }] none none true },
    { condition := .nested comments { wheres := [{ condition := manyVotes votes }] } false }]
  filters := [{ condition := .isNull "archived" }, { condition := .isNotNull "postsx.title" }]
  orders := [{ column := created, direction := .descending }]

theorem select_of_qualified_votedPosts :
    (votedPosts "title" "comments" "votes" "created").collection ≠ "" ∧
      (votedPosts "title" "comments" "votes" "created").Qualifies "posts"
        (votedPosts "posts.title" "posts.comments" "posts.votes" "posts.created") ∧
      contexts {} "posts" (votedPosts "title" "comments" "votes" "created") =
        contexts {} "posts"
          (votedPosts "posts.title" "posts.comments" "posts.votes" "posts.created") ∧
      (select {} (votedPosts "title" "comments" "votes" "created")).map withoutAggregations =
        (select {} (votedPosts "posts.title" "posts.comments" "posts.votes" "posts.created")).map
          withoutAggregations ∧
      bareColumn "posts" ("posts" ++ "x.title") = "postsx.title" := by
  have hname (column : String) (bare : ¬ IsQualified "posts" column) :
      Qualifies "posts" column (qualified "posts" column) := .qualified bare
  have hvotes : (manyVotes "votes").Qualifies "posts"
      ((manyVotes "votes").withColumn (qualified "posts" "votes")) := .column rfl (by decide)
  have hqualifies : (votedPosts "title" "comments" "votes" "created").Qualifies "posts"
      (votedPosts "posts.title" "posts.comments" "posts.votes" "posts.created") := by
    refine .intro (.cons (.search ?searched) (.cons (.nested (.qualified ?path) ?inside) .nil))
      (.cons (.same _) (.cons (.same _) .nil)) .nil .nil ?order
    case searched =>
      exact .cons ⟨"posts.title", hname "title" (by decide), rfl⟩ (.cons ⟨_, .same _, rfl⟩ .nil)
    case path => decide
    case inside => exact .intro (.cons hvotes .nil) .nil .nil .nil .nil
    case order => exact .cons ⟨"posts.created", hname "created" (by decide), rfl⟩ .nil
  have hcollection : (votedPosts "title" "comments" "votes" "created").collection ≠ "" := by decide
  obtain ⟨hcontexts, hselect, hnames⟩ := select_of_qualified {} hcollection hqualifies
  exact ⟨hcollection, hqualifies, hcontexts, hselect, hnames "x.title" (by decide)⟩

end Dsl

end SearchQuery
