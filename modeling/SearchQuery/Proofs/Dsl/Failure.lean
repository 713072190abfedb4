import SearchQuery.Dsl.Search
import SearchQuery.Proofs.Except
/-!
# Queries that do not compile

Two kinds of conditions do not compile: a component of a date that is compared with an operator no
script has, and a query inside a condition that must be one tree but both scores and filters. A
search fails exactly when such a condition stands anywhere in what is compiled for it, and the first
one in the order of compilation gives the error. Nothing else can fail.
-/

namespace SearchQuery

/-- The query inside a condition. -/
def Condition.inner? : Condition → Option Query
  | .nested _ query _ | .group query | .not query | .related _ _ query => some query
  | _ => none

/-- Whether a query has clauses in both its scoring and its filter context. -/
def Query.isMixed (query : Query) : Bool := !query.wheres.isEmpty && !query.filters.isEmpty

/-- The error that a condition gives by itself, whatever stands inside of it. -/
def Condition.offence? : Condition → Option Error
  | .datePart _ _ operator _ =>
    if operator = .like ∨ operator = .exists then some (.invalidOperator operator.word) else none
  | .nested _ query _ => if query.isMixed then some (.conflictingContexts "nested") else none
  | .not query => if query.isMixed then some (.conflictingContexts "not") else none
  | .related .parent _ query =>
    if query.isMixed then some (.conflictingContexts "has_parent") else none
  | .related .child _ query =>
    if query.isMixed then some (.conflictingContexts "has_child") else none
  | _ => none

/-! ### What is compiled for a query -/

/-- The clauses of a query in its three contexts. -/
def Query.clauses (query : Query) : List Clause :=
  query.wheres ++ query.filters ++ query.postFilters

/-- `query.Holds condition`: the condition stands in one of the contexts of the query, or in the
query inside a condition that stands there. -/
inductive Query.Holds : Query → Condition → Prop where
  | own {query : Query} {clause : Clause} (mem : clause ∈ query.clauses) :
      query.Holds clause.condition
  | inner {query sub : Query} {clause : Clause} {condition : Condition}
      (mem : clause ∈ query.clauses) (inner : clause.condition.inner? = some sub)
      (holds : sub.Holds condition) : query.Holds condition

/-- `Aggregation.InTree list aggregation`: the aggregation is in the list, or a child at any depth
of one that is. -/
inductive Aggregation.InTree (list : List Aggregation) : Aggregation → Prop where
  | root {aggregation : Aggregation} (mem : aggregation ∈ list) : InTree list aggregation
  | child {parent aggregation : Aggregation} (parent_mem : InTree list parent)
      (mem : aggregation ∈ parent.children) : InTree list aggregation

/-- Whether a condition is compiled for a search: it stands in the query, or in the query of a
filter aggregation of it. -/
def Query.Compiles (query : Query) (condition : Condition) : Prop :=
  query.Holds condition ∨ ∃ aggregation sub, Aggregation.InTree query.aggregations aggregation ∧
    aggregation.aggregator = .filter sub ∧ sub.Holds condition

/-! ### The order of compilation -/

mutual

/-- The conditions of a query in the order of compilation: scoring clauses, filters, and
post-filters. -/
def Query.conditions : Query → List Condition
  | { wheres, filters, postFilters, .. } =>
    conditionsOf wheres ++ conditionsOf filters ++ conditionsOf postFilters

/-- The conditions of clauses, one clause after the other. -/
def conditionsOf : List Clause → List Condition
  | [] => []
  | { condition, .. } :: rest => condition.conditions ++ conditionsOf rest

/-- A condition behind the conditions of the query inside of it. -/
def Condition.conditions : Condition → List Condition
  | .nested column query negate => query.conditions ++ [.nested column query negate]
  | .group query => query.conditions ++ [.group query]
  | .not query => query.conditions ++ [.not query]
  | .related relation documentType query =>
    query.conditions ++ [.related relation documentType query]
  | condition => [condition]

end

/-- The conditions of the query of a filter; no other aggregator has any. -/
def Aggregator.conditions : Aggregator → List Condition
  | .filter query => query.conditions
  | _ => []

mutual

/-- The conditions of aggregations, one aggregation after the other. -/
def aggregationConditions : List Aggregation → List Condition
  | [] => []
  | aggregation :: rest => aggregation.conditions ++ aggregationConditions rest

/-- The conditions of an aggregation in front of those of its children. -/
def Aggregation.conditions : Aggregation → List Condition
  | { aggregator, children, .. } => aggregator.conditions ++ aggregationConditions children

end

/-- The conditions of a search in the order of compilation: those of the query, and then those of
its aggregations. -/
def Query.searchConditions (query : Query) : List Condition :=
  query.conditions ++ aggregationConditions query.aggregations

theorem conditionsOf_eq (list : List Clause) :
    conditionsOf list = list.flatMap (·.condition.conditions) := by
  induction list with
  | nil => rfl
  | cons clause rest ih =>
    obtain ⟨condition, junction, options⟩ := clause
    rw [conditionsOf, ih, List.flatMap_cons]

theorem Query.conditions_eq (query : Query) :
    query.conditions = query.clauses.flatMap (·.condition.conditions) := by
  cases query
  simp only [Query.conditions, conditionsOf_eq, Query.clauses, List.flatMap_append]

theorem Condition.conditions_eq (condition : Condition) :
    condition.conditions = (condition.inner?.map Query.conditions).getD [] ++ [condition] := by
  cases condition <;> rfl

theorem aggregationConditions_eq (list : List Aggregation) :
    aggregationConditions list = list.flatMap Aggregation.conditions := by
  induction list with
  | nil => rfl
  | cons aggregation rest ih => rw [aggregationConditions, ih, List.flatMap_cons]

/-! Every condition that is compiled has its place in the order, and no other one has. -/

theorem mem_conditions_of_holds {query : Query} {condition : Condition}
    (h : query.Holds condition) : condition ∈ query.conditions := by
  induction h with
  | own mem =>
    rw [Query.conditions_eq, List.mem_flatMap]
    exact ⟨_, mem, by rw [Condition.conditions_eq]; simp⟩
  | inner mem inner _ ih =>
    rw [Query.conditions_eq, List.mem_flatMap]
    refine ⟨_, mem, ?_⟩
    rw [Condition.conditions_eq, inner]
    exact List.mem_append_left _ ih

mutual

theorem holds_of_mem_conditions : (query : Query) → {condition : Condition} →
    condition ∈ query.conditions → query.Holds condition
  | { wheres, filters, postFilters, .. }, condition, h => by
    simp only [Query.conditions, List.mem_append] at h
    obtain ⟨clause, mem, h⟩ : ∃ clause ∈ wheres ++ filters ++ postFilters,
        condition = clause.condition ∨
          ∃ sub, clause.condition.inner? = some sub ∧ sub.Holds condition := by
      simp only [List.mem_append]
      rcases h with (h | h) | h
      · obtain ⟨clause, mem, h⟩ := holds_of_mem_conditionsOf wheres h
        exact ⟨clause, .inl (.inl mem), h⟩
      · obtain ⟨clause, mem, h⟩ := holds_of_mem_conditionsOf filters h
        exact ⟨clause, .inl (.inr mem), h⟩
      · obtain ⟨clause, mem, h⟩ := holds_of_mem_conditionsOf postFilters h
        exact ⟨clause, .inr mem, h⟩
    rcases h with rfl | ⟨sub, hinner, h⟩
    · exact .own mem
    · exact .inner mem hinner h

theorem holds_of_mem_conditionsOf : (list : List Clause) → {condition : Condition} →
    condition ∈ conditionsOf list → ∃ clause ∈ list, condition = clause.condition ∨
      ∃ sub, clause.condition.inner? = some sub ∧ sub.Holds condition
  | [], _, h => by simp [conditionsOf] at h
  | { condition := first, .. } :: rest, condition, h => by
    rw [conditionsOf, List.mem_append] at h
    rcases h with h | h
    · exact ⟨_, List.mem_cons_self, holds_of_mem first h⟩
    · obtain ⟨clause, mem, h⟩ := holds_of_mem_conditionsOf rest h
      exact ⟨clause, List.mem_cons_of_mem _ mem, h⟩

theorem holds_of_mem : (outer : Condition) → {condition : Condition} →
    condition ∈ outer.conditions → condition = outer ∨
      ∃ sub, outer.inner? = some sub ∧ sub.Holds condition := by
  intro outer condition h
  cases outer with
  | nested _ query _ | group query | not query | related _ _ query =>
    simp only [Condition.conditions, List.mem_append, List.mem_singleton] at h
    exact h.symm.imp_right fun h => ⟨query, rfl, holds_of_mem_conditions query h⟩
  | _ => exact .inl (List.mem_singleton.mp h)

end

theorem mem_conditions_iff {query : Query} {condition : Condition} :
    condition ∈ query.conditions ↔ query.Holds condition :=
  ⟨holds_of_mem_conditions query, mem_conditions_of_holds⟩

theorem Aggregation.InTree.mono {front back : List Aggregation} {aggregation : Aggregation}
    (hroots : ∀ root ∈ front, InTree back root) (h : InTree front aggregation) :
    InTree back aggregation := by
  induction h with
  | root mem => exact hroots _ mem
  | child _ mem ih => exact .child ih mem

theorem mem_aggregationConditions_of_inTree {list : List Aggregation} {aggregation : Aggregation}
    {condition : Condition} (h : Aggregation.InTree list aggregation)
    (mem : condition ∈ aggregation.conditions) : condition ∈ aggregationConditions list := by
  induction h with
  | root hroot =>
    rw [aggregationConditions_eq, List.mem_flatMap]
    exact ⟨_, hroot, mem⟩
  | @child parent child _ hchild ih =>
    obtain ⟨key, aggregator, children⟩ := parent
    apply ih
    rw [Aggregation.conditions, aggregationConditions_eq]
    exact List.mem_append_right _ (List.mem_flatMap.mpr ⟨child, hchild, mem⟩)

mutual

theorem inTree_of_mem_aggregationConditions : (list : List Aggregation) → {condition : Condition} →
    condition ∈ aggregationConditions list →
    ∃ aggregation, Aggregation.InTree list aggregation ∧
      condition ∈ aggregation.aggregator.conditions
  | [], _, h => by simp [aggregationConditions] at h
  | first :: rest, condition, h => by
    rw [aggregationConditions, List.mem_append] at h
    rcases h with h | h
    · obtain ⟨aggregation, hin, mem⟩ := inTree_of_mem_conditions first h
      refine ⟨aggregation, hin.mono ?_, mem⟩
      rintro root (_ | ⟨_, ⟨⟩⟩)
      exact .root List.mem_cons_self
    · obtain ⟨aggregation, hin, mem⟩ := inTree_of_mem_aggregationConditions rest h
      exact ⟨aggregation, hin.mono fun root hroot => .root (List.mem_cons_of_mem _ hroot), mem⟩

theorem inTree_of_mem_conditions : (outer : Aggregation) → {condition : Condition} →
    condition ∈ outer.conditions →
    ∃ aggregation, Aggregation.InTree [outer] aggregation ∧
      condition ∈ aggregation.aggregator.conditions
  | { key, aggregator, children }, condition, h => by
    rw [Aggregation.conditions, List.mem_append] at h
    rcases h with h | h
    · exact ⟨_, .root List.mem_cons_self, h⟩
    · obtain ⟨aggregation, hin, mem⟩ := inTree_of_mem_aggregationConditions children h
      exact ⟨aggregation, hin.mono fun root hroot => .child (.root List.mem_cons_self) hroot, mem⟩

end

theorem Aggregator.mem_conditions_iff {aggregator : Aggregator} {condition : Condition} :
    condition ∈ aggregator.conditions ↔
      ∃ sub, aggregator = .filter sub ∧ sub.Holds condition := by
  cases aggregator with
  | filter query => simp [Aggregator.conditions, SearchQuery.mem_conditions_iff]
  | _ => simp [Aggregator.conditions]

theorem mem_aggregationConditions_iff {list : List Aggregation} {condition : Condition} :
    condition ∈ aggregationConditions list ↔ ∃ aggregation sub,
      Aggregation.InTree list aggregation ∧ aggregation.aggregator = .filter sub ∧
        sub.Holds condition := by
  constructor
  · intro h
    obtain ⟨aggregation, hin, mem⟩ := inTree_of_mem_aggregationConditions list h
    obtain ⟨sub, hsub, hholds⟩ := Aggregator.mem_conditions_iff.mp mem
    exact ⟨aggregation, sub, hin, hsub, hholds⟩
  · rintro ⟨⟨key, aggregator, children⟩, sub, hin, hsub, hholds⟩
    apply mem_aggregationConditions_of_inTree hin
    rw [Aggregation.conditions]
    exact List.mem_append_left _ (Aggregator.mem_conditions_iff.mpr ⟨sub, hsub, hholds⟩)

theorem mem_searchConditions_iff {query : Query} {condition : Condition} :
    condition ∈ query.searchConditions ↔ query.Compiles condition := by
  rw [Query.searchConditions, List.mem_append, mem_conditions_iff, mem_aggregationConditions_iff,
    Query.Compiles]

namespace Dsl

/-! ### The first failure -/

theorem Grouping.isSome_tree_add (grouping : Grouping) (junction : Junction) (query : Json) :
    (grouping.add junction query).tree.isSome = true := by
  rcases grouping with (_ | _) | _ <;> cases junction <;> rfl

theorem isSome_group (clauses : List (Junction × Json)) :
    (group clauses).isSome = !clauses.isEmpty := by
  have hfold (merged : List (Junction × Json)) (start : Grouping)
      (hstart : start.tree.isSome = true) :
      (merged.foldl (fun grouping clause => grouping.add clause.1 clause.2) start).tree.isSome =
        true := by
    induction merged generalizing start with
    | nil => exact hstart
    | cons clause rest ih => exact ih _ (start.isSome_tree_add _ _)
  match clauses with
  | [] => rfl
  | [clause] => exact hfold [] _ (Grouping.isSome_tree_add _ _ _)
  | first :: second :: rest =>
    have hlong : ¬ (first :: second :: rest).length ≤ 1 := by simp
    simp only [group, if_neg hlong, List.map_cons, List.foldl_cons]
    exact hfold _ _ (Grouping.isSome_tree_add _ _ _)

variable {target : Target} {collection : String}

theorem isEmpty_clauses {list : List Clause} {compiled : List (Junction × Json)}
    (h : clauses target collection list = .ok compiled) : compiled.isEmpty = list.isEmpty := by
  cases list with
  | nil =>
    cases h
    rfl
  | cons clause rest =>
    obtain ⟨condition, junction, options⟩ := clause
    simp only [clauses, bind_eq_ok, pure_eq_ok] at h
    obtain ⟨_, -, _, -, rfl⟩ := h
    rfl

/-- One tree cannot be made of a query that scores and filters, and can of any other query. -/
theorem failure?_single {query : Query} {compiled : Contexts} (name : String)
    (h : contexts target collection query = .ok compiled) :
    failure? (compiled.single name) =
      if query.isMixed then some (.conflictingContexts name) else none := by
  cases query
  simp only [contexts, bind_eq_ok, pure_eq_ok] at h
  obtain ⟨wheres, hwheres, filters, hfilters, _, -, rfl⟩ := h
  have hscores := isSome_group wheres
  have hfilter := isSome_group filters
  rw [isEmpty_clauses hwheres] at hscores
  rw [isEmpty_clauses hfilters] at hfilter
  simp only [Contexts.single, Query.isMixed, ← hscores, ← hfilter]
  cases group wheres <;> cases group filters <;> rfl

theorem failure?_scriptComparison (operator : Operator) :
    failure? (scriptComparison operator) = if operator = .like ∨ operator = .exists then
      some (.invalidOperator operator.word) else none := by
  cases operator <;> rfl

mutual

theorem failure?_contexts : (query : Query) → failure? (contexts target collection query) =
    query.conditions.findSome? Condition.offence?
  | { wheres, filters, postFilters, .. } => by
    simp only [contexts, Query.conditions, List.findSome?_append]
    rw [Option.or_assoc, ← failure?_clauses wheres, ← failure?_clauses filters,
      ← failure?_clauses postFilters]
    refine failure?_bind fun _ _ => failure?_bind fun _ _ => ?_
    rw [failure?_bind fun _ _ => failure?_pure _, Option.or_none]

theorem failure?_clauses : (list : List Clause) → failure? (clauses target collection list) =
    (conditionsOf list).findSome? Condition.offence?
  | [] => rfl
  | { condition, .. } :: rest => by
    simp only [clauses, conditionsOf, List.findSome?_append]
    rw [← failure?_shapeOf condition, ← failure?_clauses rest]
    refine failure?_bind fun _ _ => ?_
    rw [failure?_bind fun _ _ => failure?_pure _, Option.or_none]

theorem failure?_shapeOf : (condition : Condition) →
    failure? (shapeOf target collection condition) =
      condition.conditions.findSome? Condition.offence? := by
  intro condition
  cases condition with
  | date column operator value =>
    simp only [shapeOf]
    split <;> rfl
  | datePart column part operator value =>
    simp only [shapeOf, Condition.conditions, List.findSome?_singleton, Condition.offence?]
    rw [failure?_bind fun _ _ => failure?_pure _, failure?_scriptComparison, Option.or_none]
  | group query =>
    simp only [shapeOf, Condition.conditions, List.findSome?_append, List.findSome?_singleton,
      Condition.offence?]
    rw [failure?_bind fun _ _ => failure?_pure _, failure?_contexts query]
  | nested column query negate =>
    simp only [shapeOf, Condition.conditions, List.findSome?_append, List.findSome?_singleton,
      Condition.offence?]
    rw [← failure?_contexts query]
    refine failure?_bind fun compiled hcompiled => ?_
    rw [failure?_bind fun _ _ => failure?_pure _, failure?_single _ hcompiled, Option.or_none]
  | not query =>
    simp only [shapeOf, Condition.conditions, List.findSome?_append, List.findSome?_singleton,
      Condition.offence?]
    rw [← failure?_contexts query]
    refine failure?_bind fun compiled hcompiled => ?_
    rw [failure?_bind fun _ _ => failure?_pure _, failure?_single _ hcompiled, Option.or_none]
  | related relation documentType query =>
    simp only [shapeOf, Condition.conditions, List.findSome?_append, List.findSome?_singleton]
    rw [← failure?_contexts query]
    refine failure?_bind fun compiled hcompiled => ?_
    cases relation <;>
      rw [failure?_bind fun _ _ => failure?_pure _, failure?_single _ hcompiled, Option.or_none] <;>
      rfl
  | _ => rfl

end

theorem failure?_aggregator (kind : Aggregator) : failure? (aggregator target collection kind) =
    kind.conditions.findSome? Condition.offence? := by
  cases kind with
  | filter query =>
    rw [aggregator, Aggregator.conditions, failure?_bind fun _ _ => failure?_pure _,
      failure?_contexts, Option.or_none]
  | _ => rfl

mutual

theorem failure?_aggregationsOnto : (list : List Aggregation) → (done : Object) →
    failure? (aggregationsOnto target collection done list) =
      (aggregationConditions list).findSome? Condition.offence?
  | [], _ => rfl
  | aggregation :: rest, done => by
    rw [aggregationsOnto, aggregationConditions, List.findSome?_append,
      ← failure?_aggregationEntry aggregation]
    exact failure?_bind fun entry _ => failure?_aggregationsOnto rest _

theorem failure?_aggregationEntry : (aggregation : Aggregation) →
    failure? (aggregationEntry target collection aggregation) =
      aggregation.conditions.findSome? Condition.offence?
  | { key, aggregator := kind, children } => by
    rw [aggregationEntry, Aggregation.conditions, List.findSome?_append,
      ← failure?_aggregator kind]
    refine failure?_bind fun compiled _ => ?_
    split
    · next hempty =>
      rw [List.isEmpty_iff.mp hempty]
      rfl
    · rw [failure?_bind fun _ _ => failure?_pure _, failure?_aggregationsOnto children,
        Option.or_none]

end

theorem failure?_body (query : Query) : failure? (body target query) =
    query.searchConditions.findSome? Condition.offence? := by
  rw [body, Query.searchConditions, List.findSome?_append, ← failure?_contexts]
  refine failure?_bind fun compiled _ => ?_
  dsimp only
  split
  · next hempty =>
    rw [List.isEmpty_iff.mp hempty]
    rfl
  · rw [failure?_bind fun _ _ => failure?_pure _, failure?_map, aggregations,
      failure?_aggregationsOnto, Option.or_none]

theorem failure?_select (query : Query) : failure? (select target query) =
    query.searchConditions.findSome? Condition.offence? := by
  rw [select, failure?_bind fun _ _ => failure?_pure _, failure?_body, Option.or_none]

/-- A search fails exactly when a condition that does not compile stands anywhere in what is compiled
for it, and its error is that of the first such condition. -/
theorem select_fails_at_first_offence (target : Target) (query : Query) :
    ((∃ error, select target query = .error error) ↔
      ∃ condition, query.Compiles condition ∧ condition.offence?.isSome = true) ∧
    ∀ error, select target query = .error error ↔
      ∃ before condition after, query.searchConditions = before ++ condition :: after ∧
        condition.offence? = some error ∧ ∀ earlier ∈ before, earlier.offence? = none := by
  constructor
  · simp only [← failure?_eq_some, failure?_select, ← Option.isSome_iff_exists,
      List.isSome_findSome?, List.any_eq_true, mem_searchConditions_iff]
  · intro error
    rw [← failure?_eq_some, failure?_select, List.findSome?_eq_some_iff]

end Dsl

end SearchQuery
