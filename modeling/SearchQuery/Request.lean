import SearchQuery.Json.Printer
import SearchQuery.Query.Operator
/-!
# Requests

The requests that a server understands. Query and aggregation trees are plain JSON; the envelopes
around them are structures, whose JSON form has its members in a fixed order and leaves out the
ones that are absent.
-/

namespace SearchQuery

/-- A stored document: its fields by name. -/
abbrev Document := Object

/-- The fields of a document that a search returns. -/
inductive SourceFilter where
  | all
  | fields (names : List String)
deriving DecidableEq

/-- The fields to return for a choice of columns: all of them, unless there is a choice that has
no `*` in it. -/
def SourceFilter.ofColumns : Option (List String) → SourceFilter
  | some columns => if columns.isEmpty ∨ "*" ∈ columns then .all else .fields columns
  | none => .all

def SourceFilter.toJson : SourceFilter → Json
  | .all => .bool true
  | .fields names => .ofStrings names

private def member (name : String) (value : Option Json) : Object :=
  match value with
  | some value => [(name, value)]
  | none => []

private def countMember (name : String) (value : Option Nat) : Object :=
  member name (value.map fun n => .int n)

/-- The body of a search. -/
structure SearchBody where
  source : SourceFilter
  query : Option Json
  postFilter : Option Json
  aggregations : Option Object
  sort : Option (List Json)
  offset : Option Nat
  size : Option Nat

def SearchBody.toJson (body : SearchBody) : Json :=
  .obj ([("_source", body.source.toJson)] ++ member "query" body.query
    ++ member "post_filter" body.postFilter ++ member "aggregations" (body.aggregations.map .obj)
    ++ member "sort" (body.sort.map .arr) ++ countMember "from" body.offset
    ++ countMember "size" body.size)

/-- How long the server keeps a scroll open between two requests. -/
def scrollKeepAlive : String := "1m"

/-- A search in one index. -/
structure SearchRequest where
  index : String
  body : SearchBody
  /-- How long the server keeps the scroll that the search opens, if it opens one. -/
  scroll : Option String := none

def SearchRequest.toJson (request : SearchRequest) : Json :=
  .obj ([("index", .str request.index), ("body", request.body.toJson)]
    ++ member "scroll" (request.scroll.map .str))

/-- A delete-by-query in one index. -/
structure DeleteRequest where
  index : String
  body : SearchBody
  /-- The largest number of documents to delete. -/
  maxDocs : Option Nat
  conflicts : Option Conflicts
  refresh : Option Refresh

def DeleteRequest.toJson (request : DeleteRequest) : Json :=
  .obj ([("index", .str request.index), ("body", request.body.toJson)]
    ++ countMember "max_docs" request.maxDocs
    ++ member "conflicts" (request.conflicts.map (.str ·.word))
    ++ member "refresh" (request.refresh.map (.str ·.word)))

/-- A look-up of one document. -/
structure GetRequest where
  index : String
  id : String
deriving DecidableEq

def GetRequest.toJson (request : GetRequest) : Json :=
  .obj [("index", .str request.index), ("id", .str request.id)]

/-- A write of one document. -/
structure IndexRequest where
  index : String
  id : String
  body : Document
  routing : Option String
  parent : Option String
  /-- Whether the body is merged into the stored document instead of replacing it. -/
  isPartial : Bool

def IndexRequest.toJson (request : IndexRequest) : Json :=
  .obj ([("index", .str request.index), ("id", .str request.id), ("body", .obj request.body)]
    ++ member "routing" (request.routing.map .str) ++ member "parent" (request.parent.map .str)
    ++ (if request.isPartial then [("partial", .bool true)] else []))

/-- One write of a bulk request: what to do, and the document. -/
structure BulkOperation where
  action : Json
  source : Document

def BulkOperation.toJson (operation : BulkOperation) : Json :=
  .obj [("action", operation.action), ("source", .obj operation.source)]

/-- Several writes in one request. -/
structure BulkRequest where
  operations : List BulkOperation

def BulkRequest.toJson (request : BulkRequest) : Json :=
  .obj [("operations", .arr (request.operations.map BulkOperation.toJson))]

/-- The line-wise text of a bulk request: each action and each document on a line of its own. -/
def BulkRequest.lines (request : BulkRequest) : String :=
  String.join (request.operations.map fun operation =>
    operation.action.compact ++ "\n" ++ (Json.obj operation.source).compact ++ "\n")

/-- A write of one document, or of several at once. -/
inductive WriteRequest where
  | index (request : IndexRequest)
  | bulk (request : BulkRequest)

/-- The JSON form, under the name of the kind. -/
def WriteRequest.toJson : WriteRequest → Json
  | .index request => .single "index" request.toJson
  | .bulk request => .single "bulk" request.toJson

/-- Any request that a server may get. -/
inductive Request where
  | search (request : SearchRequest)
  | scroll (id : String)
  | clearScroll (id : String)
  | get (request : GetRequest)
  | deleteByQuery (request : DeleteRequest)
  | index (request : IndexRequest)
  | bulk (request : BulkRequest)

/-- The JSON form, under the name of the kind. -/
def Request.toJson : Request → Json
  | .search request => .single "search" request.toJson
  | .scroll id => .single "scroll" (.str id)
  | .clearScroll id => .single "clear_scroll" (.str id)
  | .get request => .single "get" request.toJson
  | .deleteByQuery request => .single "delete_by_query" request.toJson
  | .index request => .single "index" request.toJson
  | .bulk request => .single "bulk" request.toJson

end SearchQuery
