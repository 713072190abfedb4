import SearchQuery.Dsl.Aggregation
import SearchQuery.Request
/-!
# Compiled searches

The requests that read or delete by a query. They share one body; a delete leaves out everything
that only shapes an answer, and its limit bounds the number of documents deleted.
-/

namespace SearchQuery

namespace Dsl

def defaultDistanceUnit : String := "km"

/-- How a sort computes distances when nothing is given. -/
def defaultDistanceType : String := "plane"

def sortKey (collection : String) (key : SortKey) : Json :=
  let column := bareColumn collection key.column
  match key.kind with
  | .value missing mode =>
    let entries := [("order", .str key.direction.word)]
    let entries := match missing with
      | some value => Object.insert entries "missing" value
      | none => entries
    let entries := match mode with
      | some mode => Object.insert entries "mode" (.str mode)
      | none => entries
    .single column (.obj entries)
  | .distance coordinates unit distanceType =>
    .single "_geo_distance" (.ofList [(column, coordinates), ("order", .str key.direction.word),
      ("unit", .str (unit.getD defaultDistanceUnit)),
      ("distance_type", .str (distanceType.getD defaultDistanceType))])

variable (target : Target)

/-- The body of a search. -/
def body (query : Query) : Except Error SearchBody := do
  let compiled ← contexts target query.collection query
  let aggregated ←
    if query.aggregations.isEmpty then .ok none
    else (aggregations target query.collection query.aggregations).map some
  return {
    source := .ofColumns query.columns
    query := match compiled.filter with
      | some filter => some (attachFilter compiled.query filter)
      | none => compiled.query
    postFilter := compiled.postFilter
    aggregations := aggregated
    sort :=
      if query.orders.isEmpty then none
      else some (query.orders.map (sortKey query.collection))
    offset := query.offset.filter (0 < ·)
    size := query.limit }

/-- The search for a query. -/
def select (query : Query) : Except Error SearchRequest := do
  return { index := target.indexName query.collection, body := ← body target query }

/-- The delete-by-query for a query. -/
def delete (query : Query) : Except Error DeleteRequest := do
  let compiled ← body target query
  return {
    index := target.indexName query.collection
    body := { compiled with sort := none, offset := none, size := none, aggregations := none }
    maxDocs := query.limit
    conflicts := query.options.conflicts
    refresh := query.options.refresh }

/-- The look-up of one document; the clauses of the query do not matter. -/
def get (query : Query) (id : String) : GetRequest :=
  { index := target.indexName query.collection, id }

end Dsl

end SearchQuery
