import SearchQuery.Error
import SearchQuery.Request
/-!
# Responses

What is read out of the server's answers: the documents of a search or look-up, totals and scroll
ids, and the items of a write that were refused.
-/

namespace SearchQuery

/-- The hits of a search response, or of the inner hits of one hit. -/
def hitsOf (response : Json) : List Json :=
  match (response.field? "hits").bind (·.field? "hits") with
  | some (.arr hits) => hits
  | _ => []

/-- The source of a hit; empty unless it is an object. -/
def hitSource (hit : Object) : Object :=
  match Object.get? hit "_source" with
  | some (.obj source) => source
  | _ => []

/-- An inner hit as an entry of its group: its id under `_id`, and the fields of its source, which
win over the id. -/
def innerHitEntry (hit : Json) : Json :=
  let start := match hit.field? "_id" with
    | some id => Object.single "_id" id
    | none => []
  let source := match hit.field? "_source" with
    | some (.obj source) => source
    | _ => []
  .obj (source.foldl (fun entry field => Object.insert entry field.1 field.2) start)

/-- The inner hits of a hit, the entries of each group in a list. -/
def groupedInnerHits (groups : Object) : Json :=
  .obj (groups.map fun (name, result) => (name, .arr ((hitsOf result).map innerHitEntry)))

/-- The document of a hit: the fields of its source, its id under `id`, and its inner hits if they
are wanted. Nothing for a hit that is no object. -/
def documentOfHit (includeInnerHits : Bool) : Json → Option Document
  | .obj hit =>
    let document := hitSource hit
    let document := match Object.get? hit "_id" with
      | some id => Object.insert document "id" id
      | none => document
    match includeInnerHits, Object.get? hit "inner_hits" with
    | true, some (.obj groups) =>
      some (Object.insert document "inner_hits" (groupedInnerHits groups))
    | _, _ => some document
  | _ => none

/-- The documents of a response. The answer to a look-up that found its document is one hit; any
other answer has a list of hits. -/
def documentsOf (includeInnerHits : Bool) (response : Json) : List Document :=
  if (response.field? "found").bind Json.bool? = some true then
    (documentOfHit includeInnerHits response).toList
  else (hitsOf response).filterMap (documentOfHit includeInnerHits)

/-- The number of all matching documents: a count, or an object that holds one. -/
def totalHits? (response : Json) : Option Nat :=
  match (response.field? "hits").bind (·.field? "total") with
  | some (.obj total) => (Object.get? total "value").bind Json.nat?
  | some total => total.nat?
  | none => none

/-- A response with its documents. -/
structure SearchResults where
  documents : List Document
  /-- The response, unchanged. -/
  response : Json

namespace SearchResults

def ofResponse (includeInnerHits : Bool) (response : Json) : SearchResults :=
  { documents := documentsOf includeInnerHits response, response }

/-- The aggregations of the response; an empty object when it has none. -/
def aggregations (results : SearchResults) : Json :=
  (results.response.field? "aggregations").getD (.obj [])

/-- The number of all matching documents, if the response tells. -/
def total? (results : SearchResults) : Option Nat := totalHits? results.response

/-- How many milliseconds the server took, if the response tells. -/
def took? (results : SearchResults) : Option Nat :=
  (results.response.field? "took").bind Json.nat?

/-- The scroll that the response belongs to, if any. -/
def scrollId? (results : SearchResults) : Option String :=
  (results.response.field? "_scroll_id").bind Json.str?

end SearchResults

/-- How many refused items an error carries. -/
def failureLimit : Nat := 10

/-- The failure that one item of a write response reports. An item is keyed by what was done; only
its first entry counts. -/
def itemFailure? : Json → Option ItemFailure
  | .obj ((_, result) :: _) => do
    let error ← result.field? "error"
    if error.isNull then none
    return {
      id := ((result.field? "_id").map Json.plainText).getD ""
      reason := ((error.field? "reason").map Json.plainText).getD error.compact
      causedBy := ((error.field? "caused_by").bind (·.field? "reason")).map Json.plainText }
  | _ => none

/-- The error for a write response with refused items: all of them are counted, the first are
carried. -/
def bulkWriteError (response : Json) : Error :=
  let items := ((response.field? "items").bind Json.arr?).getD []
  let failures := items.filterMap itemFailure?
  .bulkWriteFailed failures.length (failures.take failureLimit)

end SearchQuery
