import SearchQuery.Dsl.Search
import SearchQuery.Proofs.Dsl.Shape
/-!
# Meaning of compiled searches

A query demands its scoring clauses and its filter clauses, a group demands its sub-query, and a
negation the opposite of its sub-query. The main statement is that the tree of a compiled search
matches exactly the documents for which the query holds.
-/

namespace SearchQuery

namespace Dsl

variable {target : Target} {collection : String}

/-! ### What queries demand -/

variable {Doc : Type} (judge : Judgement Doc) (document : Doc)

section Demands

variable (target collection)

/-- Whether a clause without clauses of its own to group or negate holds: its shape matches with
the options of the clause, or does not match where the opposite is meant. -/
def LeafHolds (condition : Condition) (options : ClauseOptions) : Prop :=
  ∃ shape, shapeOf target collection condition = .ok shape ∧
    (Matches judge document (applyOptions shape.query options) ↔ shape.negated = false)

mutual

/-- Whether a query holds: its scoring clauses and its filter clauses. -/
def QueryHolds : Query → Prop
  | { wheres, filters, .. } => Joined (demands wheres) ∧ Joined (demands filters)

/-- What each clause of a list demands. -/
def demands : List Clause → List (Junction × Prop)
  | [] => []
  | { condition, junction, options } :: rest =>
    (junction, ConditionHolds options condition) :: demands rest

/-- Whether a condition holds under the options of its clause. -/
def ConditionHolds (options : ClauseOptions) : Condition → Prop
  | .group query => QueryHolds query
  | .not query => ¬ QueryHolds query
  | condition => LeafHolds target collection judge document condition options

end

end Demands

mutual

/-- Whether no group has clause options, at any depth of groups and negations. -/
def GroupsPlain : Query → Prop
  | { wheres, filters, .. } => ClausesPlain wheres ∧ ClausesPlain filters

/-- Whether no group among the clauses and inside of them has clause options. -/
def ClausesPlain : List Clause → Prop
  | [] => True
  | { condition, options, .. } :: rest => ConditionPlain options condition ∧ ClausesPlain rest

/-- Whether a condition is no group with clause options, and holds none. -/
def ConditionPlain (options : ClauseOptions) : Condition → Prop
  | .group query => options.isEmpty = true ∧ GroupsPlain query
  | .not query => GroupsPlain query
  | _ => True

end

theorem applyOptions_of_isEmpty (query : Json) {options : ClauseOptions}
    (h : options.isEmpty = true) : applyOptions query options = query := by
  obtain ⟨boost, innerHits⟩ := options
  obtain ⟨rfl, rfl⟩ : boost = none ∧ innerHits = none := by
    simpa [ClauseOptions.isEmpty] using h
  unfold applyOptions
  split <;> rfl

/-- Options on a negation change nothing: inside a `bool` tree they are no queries. -/
theorem matches_applyOptions_mustNot (query : Json) (options : ClauseOptions) :
    Matches judge document (applyOptions (mustNot [query]) options) ↔
      ¬ Matches judge document query := by
  obtain ⟨boost, innerHits⟩ := options
  cases boost <;> cases innerHits with
  | none => simp [applyOptions, mustNot, Json.single, Object.single, matches_bool, sectionQueries,
      wantsAlternative, Object.has]
  | some settings => cases settings <;>
      simp [applyOptions, mustNot, Json.single, Object.single, matches_bool, sectionQueries,
        wantsAlternative, Object.has]

theorem matches_finish (shape : Shape) (options : ClauseOptions) :
    Matches judge document (shape.finish options) ↔
      (Matches judge document (applyOptions shape.query options) ↔ shape.negated = false) := by
  unfold Shape.finish
  cases shape.negated <;> simp

theorem matches_joined (contexts : Contexts)
    (hfilter : ∀ tree ∈ contexts.filter, tree.isObject = true) :
    Matches judge document contexts.joined ↔
      Accepts judge document contexts.query ∧ Accepts judge document contexts.filter := by
  unfold Contexts.joined
  split
  · next filter hf =>
    rw [matches_attachFilter judge document _ (hfilter filter hf), hf, accepts_some]
  · next query hq hf => simp [hq, hf]
  · next hq hf => simp [hq, hf]

/-- Of two contexts that make one tree at most one is there, and a missing one demands nothing. -/
theorem matches_single {contexts : Contexts} {context : String} {tree : Json}
    (h : contexts.single context = .ok tree) :
    Matches judge document tree ↔
      Accepts judge document contexts.query ∧ Accepts judge document contexts.filter := by
  unfold Contexts.single at h
  split at h
  · cases h
  · next query hq hf =>
    cases h
    simp [hq, hf]
  · next filter hq hf =>
    cases h
    simp [hq, hf]
  · next hq hf =>
    cases h
    simp [hq, hf]

mutual

/-- The two contexts of a query match where its scoring clauses and its filter clauses hold. -/
theorem accepts_contexts : (query : Query) → (compiled : Contexts) →
    contexts target collection query = .ok compiled → GroupsPlain query →
    (Accepts judge document compiled.query ∧ Accepts judge document compiled.filter ↔
      QueryHolds target collection judge document query)
  | { wheres, filters, .. }, compiled, h, hplain => by
    simp only [contexts, bind_eq_ok, pure_eq_ok] at h
    obtain ⟨query, hquery, filter, hfilter, postFilter, -, rfl⟩ := h
    simp only [GroupsPlain] at hplain
    rw [accepts_group, accepts_group, matches_clauses wheres query hquery hplain.1,
      matches_clauses filters filter hfilter hplain.2, QueryHolds]

/-- Compiled clauses match where the clauses hold, one by one. -/
theorem matches_clauses : (list : List Clause) → (compiled : List (Junction × Json)) →
    clauses target collection list = .ok compiled → ClausesPlain list →
    compiled.map (fun clause => (clause.1, Matches judge document clause.2)) =
      demands target collection judge document list
  | [], compiled, h, _ => by
    simp only [clauses, Except.ok.injEq] at h
    simp [← h, demands]
  | { condition, junction, options } :: rest, compiled, h, hplain => by
    simp only [clauses, bind_eq_ok, pure_eq_ok] at h
    obtain ⟨shape, hshape, others, hothers, rfl⟩ := h
    simp only [ClausesPlain] at hplain
    have hfirst := matches_shapeOf condition shape options hshape hplain.1
    rw [List.map_cons, matches_clauses rest others hothers hplain.2, demands, ← hfirst]

/-- A compiled condition matches where the condition holds. -/
theorem matches_shapeOf : (condition : Condition) → (shape : Shape) → (options : ClauseOptions) →
    shapeOf target collection condition = .ok shape → ConditionPlain options condition →
    (Matches judge document (shape.finish options) =
      ConditionHolds target collection judge document options condition) := by
  intro condition shape options h hplain
  cases condition with
  | group query =>
    simp only [shapeOf, bind_eq_ok, pure_eq_ok] at h
    obtain ⟨compiled, hcompiled, rfl⟩ := h
    simp only [ConditionPlain] at hplain
    have hinner := accepts_contexts query compiled hcompiled hplain.2
    have hobject := fun tree h => ((isTree_contexts query compiled hcompiled).2 tree h).isObject
    rw [matches_finish, applyOptions_of_isEmpty _ hplain.1,
      matches_joined judge document compiled hobject, hinner]
    simp [ConditionHolds]
  | not query =>
    simp only [shapeOf, bind_eq_ok, pure_eq_ok] at h
    obtain ⟨compiled, hcompiled, inner, hinner, rfl⟩ := h
    rw [ConditionPlain] at hplain
    have hquery := accepts_contexts query compiled hcompiled hplain
    rw [matches_finish, matches_applyOptions_mustNot, matches_single judge document hinner, hquery]
    simp [ConditionHolds]
  | _ =>
    rw [matches_finish]
    simp only [ConditionHolds, LeafHolds, h, Except.ok.injEq, exists_eq_left']

end

/-- What the body of a request is made of. -/
theorem body_eq_ok {query : Query} {request : SearchBody} :
    body target query = .ok request ↔
      ∃ compiled aggregated, contexts target query.collection query = .ok compiled ∧
        (if query.aggregations.isEmpty then .ok none
          else (aggregations target query.collection query.aggregations).map some) =
            .ok aggregated ∧
        request = {
          source := .ofColumns query.columns
          query := match compiled.filter with
            | some filter => some (attachFilter compiled.query filter)
            | none => compiled.query
          postFilter := compiled.postFilter
          aggregations := aggregated
          sort := if query.orders.isEmpty then none
            else some (query.orders.map (sortKey query.collection))
          offset := query.offset.filter (0 < ·)
          size := query.limit } := by
  simp only [body, bind_eq_ok]
  refine exists_congr fun compiled => ?_
  split
  all_goals
    simp only [bind_eq_ok, pure_eq_ok, exists_and_left]
    exact and_congr_right fun _ => exists_congr fun _ => and_congr_right fun _ => eq_comm

/-- The tree of a request for a query joins the two contexts of the query. -/
theorem accepts_body {query : Query} {request : SearchBody} (h : body target query = .ok request) :
    ∃ compiled, contexts target query.collection query = .ok compiled ∧
      (Accepts judge document request.query ↔
        Accepts judge document compiled.query ∧ Accepts judge document compiled.filter) := by
  obtain ⟨compiled, aggregated, hcompiled, -, rfl⟩ := body_eq_ok.mp h
  refine ⟨compiled, hcompiled, ?_⟩
  cases hfilter : compiled.filter with
  | none => simp
  | some filter =>
    have hobject := ((isTree_contexts query compiled hcompiled).2 filter hfilter).isObject
    simp only [accepts_some, matches_attachFilter judge document _ hobject]

/-- The tree of a compiled search matches a document exactly when the query holds for it. -/
theorem accepts_select (query : Query) (request : SearchRequest)
    (hplain : GroupsPlain query) (h : select target query = .ok request) :
    Accepts judge document request.body.query ↔
      QueryHolds target query.collection judge document query := by
  simp only [select, bind_eq_ok, pure_eq_ok] at h
  obtain ⟨compiledBody, hbody, rfl⟩ := h
  obtain ⟨compiled, hcompiled, hjoined⟩ := accepts_body judge document hbody
  rw [hjoined, accepts_contexts judge document query compiled hcompiled hplain]

/-- A query with a filtered group of alternatives under OR, a negation and a filter. -/
def mixedQuery : Query where
  collection := "posts"
  wheres := [
    { condition := .compare "posts.status" .eq (.plain (.str "open")) false
      options := { boost := some (.ofNat 2) } },
    { condition := .group {
        wheres := [{ condition := .isNull "owner" },
          { condition := .between "score" (.plain (.int 1)) (.plain (.int 5)) true
            junction := .or }]
        filters := [{ condition := .not { wheres := [{ condition := .isNotNull "closed" }] } }] }
      junction := .or },
    { condition := .not {}, options := { innerHits := some (.obj []) } }]
  filters := [{ condition := .compare "tenant" .ne (.plain (.int 7)) false }]

theorem accepts_select_mixedQuery : GroupsPlain mixedQuery ∧
    ∃ request, select {} mixedQuery = .ok request ∧
      (Accepts (fun name _ document => name ∈ document) ["exists", "range"] request.body.query ↔
        QueryHolds {} "posts" (fun name _ document => name ∈ document) ["exists", "range"]
          mixedQuery) := by
  have hplain : GroupsPlain mixedQuery := by
    simp [mixedQuery, GroupsPlain, ClausesPlain, ConditionPlain, ClauseOptions.isEmpty]
  exact ⟨hplain, _, rfl, accepts_select _ _ mixedQuery _ hplain rfl⟩

end Dsl

end SearchQuery
