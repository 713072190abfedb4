import SearchQuery.Dsl.Aggregation
import SearchQuery.Proofs.Dsl.Mirror
import SearchQuery.Proofs.Except
/-!
# Sub-queries

A sub-query is a whole query, but it is compiled for its clauses only, under the collection of the
outermost query. `Resembles` relates queries that may stand for each other inside of another query:
they have the same clauses, in which sub-queries may again be replaced, and are free in all that is
no clause. Their post-filters are only compiled to see whether that fails, so they are free as well
where it does not. Clauses and aggregations compile to the same either way, and fail alike.
-/

namespace SearchQuery

variable (target : Target) (collection : String)

/-- Whether a list of clauses compiles. -/
def Compiles (list : List Clause) : Prop := ∃ tree, Dsl.clauseTree target collection list = .ok tree

mutual

/-- Queries that may stand for each other as sub-queries. -/
inductive Query.Resembles : Query → Query → Prop where
  | intro {old new : Query} (wheres_resemble : ClausesResemble old.wheres new.wheres)
      (filters_resemble : ClausesResemble old.filters new.filters)
      (postFilters_resemble : PostFiltersResemble old.postFilters new.postFilters) :
      Query.Resembles old new

/-- Post-filters are the same clauses, or any others where neither fail to compile. -/
inductive PostFiltersResemble : List Clause → List Clause → Prop where
  | same {olds news : List Clause} (clauses_resemble : ClausesResemble olds news) :
      PostFiltersResemble olds news
  | other {olds news : List Clause} (old_compile : Compiles target collection olds)
      (new_compile : Compiles target collection news) : PostFiltersResemble olds news

/-- The same clauses, some of their sub-queries replaced. -/
inductive ClausesResemble : List Clause → List Clause → Prop where
  | nil : ClausesResemble [] []
  | cons {old new : Condition} {junction : Junction} {options : ClauseOptions}
      {olds news : List Clause} (first : Condition.Resembles old new)
      (rest : ClausesResemble olds news) :
      ClausesResemble ({ condition := old, junction, options } :: olds)
        ({ condition := new, junction, options } :: news)

inductive Condition.Resembles : Condition → Condition → Prop where
  | same (condition : Condition) : Condition.Resembles condition condition
  | nested {column : String} {old new : Query} {negate : Bool} (query : Query.Resembles old new) :
      Condition.Resembles (.nested column old negate) (.nested column new negate)
  | group {old new : Query} (query : Query.Resembles old new) :
      Condition.Resembles (.group old) (.group new)
  | not {old new : Query} (query : Query.Resembles old new) :
      Condition.Resembles (.not old) (.not new)
  | related {relation : Relation} {documentType : String} {old new : Query}
      (query : Query.Resembles old new) :
      Condition.Resembles (.related relation documentType old) (.related relation documentType new)

end

inductive Aggregator.Resembles : Aggregator → Aggregator → Prop where
  | same (aggregator : Aggregator) : Aggregator.Resembles aggregator aggregator
  | filter {old new : Query} (query : old.Resembles target collection new) :
      Aggregator.Resembles (.filter old) (.filter new)

/-- The same tree of aggregations, some of its sub-queries replaced. -/
inductive AggregationsResemble : List Aggregation → List Aggregation → Prop where
  | nil : AggregationsResemble [] []
  | cons {key : String} {old new : Aggregator}
      {oldChildren newChildren olds news : List Aggregation}
      (first : old.Resembles target collection new)
      (children : AggregationsResemble oldChildren newChildren)
      (rest : AggregationsResemble olds news) :
      AggregationsResemble ({ key, aggregator := old, children := oldChildren } :: olds)
        ({ key, aggregator := new, children := newChildren } :: news)

namespace Dsl

variable {target : Target} {collection : String}

/-! ### Contexts -/

/-- The contexts of a sub-query that its tree is made from. -/
def Contexts.scored (contexts : Contexts) : Contexts := { contexts with postFilter := none }

/-- What a compiled query is used for is the same for another one, if the use leaves the post-filter
alone. -/
theorem bind_contexts_congr {α : Type} {old new : Query}
    (h : (contexts target collection old).map Contexts.scored =
      (contexts target collection new).map Contexts.scored)
    {use : Contexts → Except Error α} (huse : ∀ compiled, use compiled = use compiled.scored) :
    (contexts target collection old >>= use) = (contexts target collection new >>= use) := by
  have hbind (query : Query) : (contexts target collection query >>= use) =
      (contexts target collection query).map Contexts.scored >>= use := by
    cases contexts target collection query with
    | error => rfl
    | ok compiled => exact huse compiled
  rw [hbind, hbind, h]

theorem map_scored_contexts (query : Query) :
    (contexts target collection query).map Contexts.scored =
      (do
        let wheres ← clauses target collection query.wheres
        let filters ← clauses target collection query.filters
        match failure? (clauses target collection query.postFilters) with
        | some failure => .error failure
        | none => return { query := group wheres, filter := group filters }) := by
  obtain ⟨_, wheres, filters, postFilters⟩ := query
  rw [contexts]
  cases clauses target collection wheres with
  | error => rfl
  | ok =>
    cases clauses target collection filters with
    | error => rfl
    | ok => cases clauses target collection postFilters <;> rfl

theorem failure?_of_compiles {list : List Clause} (h : Compiles target collection list) :
    failure? (clauses target collection list) = none := by
  obtain ⟨tree, htree⟩ := h
  simp only [clauseTree, bind_eq_ok] at htree
  obtain ⟨compiled, hcompiled, -⟩ := htree
  rw [hcompiled]
  rfl

/-! ### Clauses -/

mutual

theorem contexts_resembles {old new : Query} : old.Resembles target collection new →
    (contexts target collection old).map Contexts.scored =
      (contexts target collection new).map Contexts.scored
  | .intro hwheres hfilters hpostFilters => by
    rw [map_scored_contexts, map_scored_contexts, clauses_resemble hwheres,
      clauses_resemble hfilters, failure?_postFilters_resemble hpostFilters]

theorem failure?_postFilters_resemble {olds news : List Clause} :
    PostFiltersResemble target collection olds news →
    failure? (clauses target collection olds) = failure? (clauses target collection news)
  | .same hclauses => by rw [clauses_resemble hclauses]
  | .other holds hnews => by rw [failure?_of_compiles holds, failure?_of_compiles hnews]

theorem clauses_resemble {olds news : List Clause} :
    ClausesResemble target collection olds news →
    clauses target collection olds = clauses target collection news
  | .nil => rfl
  | .cons first rest => by
    simp only [clauses, shapeOf_resembles first, clauses_resemble rest]

theorem shapeOf_resembles {old new : Condition} : old.Resembles target collection new →
    shapeOf target collection old = shapeOf target collection new
  | .same _ => rfl
  | .nested query => by
    simp only [shapeOf]
    exact bind_contexts_congr (contexts_resembles query) fun _ => rfl
  | .group query => by
    simp only [shapeOf]
    exact bind_contexts_congr (contexts_resembles query) fun _ => rfl
  | .not query => by
    simp only [shapeOf]
    exact bind_contexts_congr (contexts_resembles query) fun _ => rfl
  | .related query => by
    simp only [shapeOf]
    exact bind_contexts_congr (contexts_resembles query) fun _ => rfl

end

/-! ### Aggregations -/

theorem aggregator_resembles {old new : Aggregator} (h : old.Resembles target collection new) :
    aggregator target collection old = aggregator target collection new := by
  cases h with
  | same => rfl
  | filter query =>
    simp only [aggregator]
    exact bind_contexts_congr (contexts_resembles query) fun _ => rfl

theorem isEmpty_resemble {olds news : List Aggregation}
    (h : AggregationsResemble target collection olds news) : olds.isEmpty = news.isEmpty := by
  cases h <;> rfl

theorem aggregationsOnto_resemble {olds news : List Aggregation}
    (h : AggregationsResemble target collection olds news) (done : Object) :
    aggregationsOnto target collection done olds = aggregationsOnto target collection done news := by
  induction h generalizing done with
  | nil => rfl
  | @cons key old new oldChildren newChildren _ _ first children _ ihChildren ihRest =>
    have hentry : aggregationEntry target collection
        { key, aggregator := old, children := oldChildren } =
          aggregationEntry target collection { key, aggregator := new, children := newChildren } :=
      aggregationEntry_congr rfl (aggregator_resembles first) (isEmpty_resemble children)
        (ihChildren [])
    simp only [aggregationsOnto, hentry, ihRest]

/-- Clauses and aggregations compile to the same, or fail alike, when sub-queries inside of them are
replaced by others that have the same clauses, or have other post-filters and compile. -/
theorem compiled_of_resembles (target : Target) (collection : String) :
    (∀ olds news, ClausesResemble target collection olds news →
      clauseTree target collection olds = clauseTree target collection news) ∧
    ∀ olds news, AggregationsResemble target collection olds news →
      aggregations target collection olds = aggregations target collection news := by
  constructor
  · intro olds news h
    rw [clauseTree, clauseTree, clauses_resemble h]
  · intro olds news h
    exact aggregationsOnto_resemble h []

def plainPart : Query where
  wheres := [{ condition := .compare "posts.a" .eq (.plain (.int 1)) false }]

/-- The same comparison among much else. -/
def busyPart : Query where
  collection := "users"
  wheres := plainPart.wheres
  postFilters := [{ condition := .isNull "b" }]
  aggregations := [{ key := "k", aggregator := .reverseNested }]
  orders := [{ column := "c" }]
  columns := some ["d"]
  limit := some 1
  offset := some 2
  options := { routing := some "r" }

def clausesAround (part : Query) : List Clause :=
  [{ condition := .not { filters := [{ condition := .group part, junction := .or }] } }]

def aggregationsAround (part : Query) : List Aggregation :=
  [{ key := "all", aggregator := .missing "e"
     children := [{ key := "some", aggregator := .filter part }] }]

theorem compiled_of_resembles_busyPart :
    ClausesResemble {} "posts" (clausesAround plainPart) (clausesAround busyPart) ∧
      clauseTree {} "posts" (clausesAround plainPart) =
        clauseTree {} "posts" (clausesAround busyPart) ∧
      AggregationsResemble {} "posts" (aggregationsAround plainPart)
        (aggregationsAround busyPart) ∧
      aggregations {} "posts" (aggregationsAround plainPart) =
        aggregations {} "posts" (aggregationsAround busyPart) := by
  have hpart : plainPart.Resembles {} "posts" busyPart :=
    .intro (.cons (.same _) .nil) .nil (.other ⟨_, rfl⟩ ⟨_, rfl⟩)
  have hclauses : ClausesResemble {} "posts" (clausesAround plainPart) (clausesAround busyPart) :=
    .cons (.not (.intro .nil (.cons (.group hpart) .nil) (.same .nil))) .nil
  have haggregations : AggregationsResemble {} "posts" (aggregationsAround plainPart)
      (aggregationsAround busyPart) :=
    .cons (.same _) (.cons (.filter hpart) .nil .nil) .nil
  obtain ⟨hclauseTree, hobject⟩ := compiled_of_resembles {} "posts"
  exact ⟨hclauses, hclauseTree _ _ hclauses, haggregations, hobject _ _ haggregations⟩

end Dsl

end SearchQuery
