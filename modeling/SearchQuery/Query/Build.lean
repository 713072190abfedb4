import SearchQuery.Query.Encode
/-!
# Building queries

Queries are built by adding to them. `BuildStep` is one addition that may be made anywhere, also
inside the sub-query of a clause; a block of steps moves the clauses it adds from the scoring
context into one of the others. What only the outermost query has, such as paging, is set by the
functions at the end.
-/

namespace SearchQuery

namespace Condition

def eq (column : String) (value : ClauseValue) : Condition := .compare column .eq value false

def ne (column : String) (value : ClauseValue) : Condition := .compare column .ne value false

def like (column pattern : String) : Condition :=
  .compare column .like (.plain (.str pattern)) false

def present (column : String) : Condition := .compare column .exists (.plain (.bool true)) false

def searchAll (text : String) : Condition := .search text [] none none false

end Condition

namespace Clause

def ofCondition (condition : Condition) : Clause := { condition }

def or (clause : Clause) : Clause := { clause with junction := .or }

def withBoost (clause : Clause) (boost : Binary64) : Clause :=
  { clause with options := { clause.options with boost := some boost } }

def withInnerHits (clause : Clause) (settings : Json) : Clause :=
  { clause with options := { clause.options with innerHits := some settings } }

def withOptions (clause : Clause) (options : ClauseOptions) : Clause := { clause with options }

end Clause

namespace Aggregator

def ofTerms (field : String) : Aggregator := .terms field []

def ofCalendar (field interval : String) : Aggregator :=
  .dateHistogram field [("calendar_interval", .str interval)]

def ofCardinality (field : String) : Aggregator := .cardinality [("field", .str field)]

def ofMetric (metric : Metric) (field : String) : Aggregator := .metric metric field none

def ofScript (metric : Metric) (script : Json) : Aggregator := .metric metric "" (some script)

/-- Adds an argument; an aggregator without an argument map stays as it is. -/
def withArgument (aggregator : Aggregator) (name : String) (value : Json) : Aggregator :=
  match aggregator with
  | .terms field options => .terms field (options.insert name value)
  | .dateHistogram field options => .dateHistogram field (options.insert name value)
  | .cardinality args => .cardinality (args.insert name value)
  | .composite args => .composite (args.insert name value)
  | .dateRange args => .dateRange (args.insert name value)
  | other => other

def withBounds (aggregator : Aggregator) (min max : ClauseValue) : Aggregator :=
  aggregator.withArgument "extended_bounds" (.arr [min.toJson, max.toJson])

end Aggregator

/-- What a clause makes of its sub-query. -/
inductive Nesting where
  | group
  | not
  | nested (column : String) (negate : Bool)
  | related (relation : Relation) (documentType : String)

def Nesting.condition (query : Query) : Nesting → Condition
  | .group => .group query
  | .not => .not query
  | .nested column negate => .nested column query negate
  | .related relation documentType => .related relation documentType query

/-- One addition to a query. -/
inductive BuildStep where
  /-- Adds a clause. -/
  | push (clause : Clause)
  /-- Adds a clause whose sub-query is built by steps of its own. -/
  | nest (nesting : Nesting) (junction : Junction) (steps : List BuildStep)
  /-- Adds what the steps add, their clauses in the filter context. -/
  | filter (steps : List BuildStep)
  /-- Adds what the steps add, their clauses in the post-filter context. -/
  | postFilter (steps : List BuildStep)
  /-- Adds an aggregation. -/
  | aggregate (aggregation : Aggregation)

namespace Query

def push (query : Query) (clause : Clause) : Query :=
  { query with wheres := query.wheres ++ [clause] }

/-- Moves the clauses of the scoring context from a position on into the filter context. -/
def moveToFilters (query : Query) (start : Nat) : Query :=
  { query with
    wheres := query.wheres.take start
    filters := query.filters ++ query.wheres.drop start }

/-- Moves the clauses of the scoring context from a position on into the post-filter context. -/
def moveToPostFilters (query : Query) (start : Nat) : Query :=
  { query with
    wheres := query.wheres.take start
    postFilters := query.postFilters ++ query.wheres.drop start }

mutual

def build (query : Query) : BuildStep → Query
  | .push clause => query.push clause
  | .nest nesting junction steps =>
    query.push { condition := nesting.condition (buildAll { collection := query.collection } steps)
                 junction }
  | .filter steps => (buildAll query steps).moveToFilters query.wheres.length
  | .postFilter steps => (buildAll query steps).moveToPostFilters query.wheres.length
  | .aggregate aggregation => { query with aggregations := query.aggregations ++ [aggregation] }

def buildAll (query : Query) : List BuildStep → Query
  | [] => query
  | step :: rest => buildAll (build query step) rest

end

def select (query : Query) (columns : List String) : Query := { query with columns := some columns }

/-- Chooses the columns to return, unless there is a choice already. -/
def selectIfUnset (query : Query) (columns : List String) : Query :=
  { query with columns := some (query.columns.getD columns) }

def withLimit (query : Query) (limit : Nat) : Query := { query with limit := some limit }

def withOffset (query : Query) (offset : Nat) : Query := { query with offset := some offset }

def orderBy (query : Query) (key : SortKey) : Query :=
  { query with orders := query.orders ++ [key] }

def withRouting (query : Query) (routing : String) : Query :=
  { query with options := { query.options with routing := some routing } }

def withParentId (query : Query) (parentId : String) : Query :=
  { query with options := { query.options with parentId := some parentId } }

def withInnerHits (query : Query) : Query :=
  { query with options := { query.options with includeInnerHits := true } }

/-- Sets what a delete does about conflicts, as typed. -/
def onConflicts (query : Query) (text : String) : Except Error Query := do
  let conflicts ← Conflicts.parse text
  return { query with options := { query.options with conflicts := some conflicts } }

/-- Sets whether a delete makes its changes visible at once, as typed. -/
def withRefresh (query : Query) (text : String) : Except Error Query := do
  let refresh ← Refresh.parse text
  return { query with options := { query.options with refresh := some refresh } }

end Query

namespace SortKey

/-- A sort key that orders by the distance from a point. -/
def byDistance (column : String) (coordinates : Json) (direction : Direction) : SortKey :=
  { column, direction, kind := .distance coordinates none none }

/-- Sets the place of documents without a value; only for keys that order by the value. -/
def withMissing (key : SortKey) (value : Json) : SortKey :=
  match key.kind with
  | .value _ mode => { key with kind := .value (some value) mode }
  | .distance .. => key

/-- Sets how several values become one; only for keys that order by the value. -/
def withMode (key : SortKey) (mode : String) : SortKey :=
  match key.kind with
  | .value missing _ => { key with kind := .value missing (some mode) }
  | .distance .. => key

/-- Sets the unit of distances; only for keys that order by a distance. -/
def withUnit (key : SortKey) (unit : String) : SortKey :=
  match key.kind with
  | .distance coordinates _ distanceType =>
    { key with kind := .distance coordinates (some unit) distanceType }
  | .value .. => key

/-- Sets how distances are computed; only for keys that order by a distance. -/
def withDistanceType (key : SortKey) (distanceType : String) : SortKey :=
  match key.kind with
  | .distance coordinates unit _ =>
    { key with kind := .distance coordinates unit (some distanceType) }
  | .value .. => key

end SortKey

end SearchQuery
