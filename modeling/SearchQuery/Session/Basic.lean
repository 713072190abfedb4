import SearchQuery.Dsl.Write
import SearchQuery.Query.Build
import SearchQuery.Session.Cursor
/-!
# Sessions

A session is a query with the server it is for. Reading calls share one response for as long as the
offset of the query stays the same. Every request is counted and written to a log, as is every call
that is served from the response at hand.
-/

namespace SearchQuery

/-- What a request is counted as. -/
inductive Operation where
  | search
  | count
  | get
  | scroll
  | clearScroll
  | index
  | bulk
  | delete
deriving DecidableEq

def Operation.word : Operation → String
  | .search => "search"
  | .count => "count"
  | .get => "get"
  | .scroll => "scroll"
  | .clearScroll => "clear_scroll"
  | .index => "index"
  | .bulk => "bulk"
  | .delete => "delete"

/-- What happens in a session. -/
inductive Event where
  | counted (operation : Operation)
  | sent (request : Request)
  /-- A call was served from the response at hand. -/
  | reused

/-- A response at hand, with the offset it was asked for. -/
structure Memo where
  offset : Option Nat
  results : SearchResults

/-- A query with its server. -/
structure Session where
  target : Target
  query : Query
  server : Server
  memo : Option Memo := none
  ids : IdSupply := {}
  /-- What has happened, in order. -/
  log : List Event := []

/-- A call on a session. A call that fails keeps what it has done to the session. -/
abbrev Call := ExceptT Error (StateM Session)

namespace Session

def record (session : Session) (event : Event) : Session :=
  { session with log := session.log ++ [event] }

/-- Counts and sends a request: what comes back, and the session afterwards. -/
def exchange (session : Session) (operation : Operation) (request : Request) : Reply × Session :=
  let session := (session.record (.counted operation)).record (.sent request)
  let (reply, server) := session.server.exchange request
  (reply, { session with server })

end Session

namespace Call

/-- Goes on with what was computed, or fails. -/
def ofExcept {α : Type} (result : Except Error α) : Call α := ExceptT.mk (pure result)

/-- Sends a request, and returns what comes back. -/
def send (operation : Operation) (request : Request) : Call (Option Json) := do
  let (reply, session) := (← get).exchange operation request
  set session
  ofExcept reply

/-- Sends a request, and returns the value that comes back, null if there is none. -/
def sendForValue (operation : Operation) (request : Request) : Call Json := do
  return (← send operation request).getD .null

def withIds {α : Type} (action : StateM IdSupply α) : Call α := do
  let session ← get
  let (value, ids) := action session.ids
  set { session with ids }
  return value

def search (query : Query) : Call SearchResults := do
  let session ← get
  let request ← ofExcept (Dsl.select session.target query)
  let response ← sendForValue .search (.search request)
  return .ofResponse query.options.includeInnerHits response

/-- The results for the query as `adjust` makes it: those at hand, if they were asked for with the
same offset, or those of a new search. A search that fails leaves none at hand. -/
def results (adjust : Query → Query) : Call SearchResults := do
  let session ← get
  let offset := session.query.offset
  match session.memo with
  | some memo =>
    if memo.offset = offset then
      set (session.record .reused)
      return memo.results
    else fresh session offset
  | none => fresh session offset
where
  /-- Searches anew, and keeps what is found. -/
  fresh (session : Session) (offset : Option Nat) : Call SearchResults := do
    set { session with memo := none }
    let found ← search (adjust session.query)
    modify fun session => { session with memo := some { offset, results := found } }
    return found

/-- The documents that the query finds, with the given columns unless it has its own choice. -/
def getColumns (columns : List String) : Call (List Document) := do
  return (← results (·.selectIfUnset columns)).documents

def getDocuments : Call (List Document) := getColumns ["*"]

/-- The first document that the query finds. -/
def first : Call (Option Document) := do
  let found ← search (((← get).query.withLimit 1).selectIfUnset ["*"])
  return found.documents.head?

/-- The document with the given id; clauses do not matter. -/
def document (id : String) : Call (Option Document) := do
  let session ← get
  let request := Dsl.get session.target session.query id
  match ← send .get (.get request) with
  | some response =>
    return (documentsOf session.query.options.includeInnerHits response).head?
  | none => return none

def aggregations : Call Json := do
  return (← results id).aggregations

/-- The query that only counts what a query finds. -/
def countQuery (query : Query) : Query :=
  { query with columns := some ["_id"], orders := [], aggregations := [], limit := some 1
               offset := none }

/-- How many documents match: the total of the results at hand, or else of a small search. -/
def count : Call Nat := do
  let session ← get
  match session.memo.bind (·.results.total?) with
  | some total => return total
  | none =>
    let request ← ofExcept (Dsl.select session.target (countQuery session.query))
    let response ← sendForValue .count (.search request)
    match totalHits? response with
    | some total => return total
    | none => throw (.malformedResponse "response has no hits.total")

def took : Call (Option Nat) := do
  return (← results id).took?

/-- The response to a write, unless items of it were refused. -/
def checkWrite (response : Json) : Except Error Json :=
  if (response.field? "errors").bind Json.bool? = some true then .error (bulkWriteError response)
  else .ok response

def write (request : WriteRequest) : Call Json := do
  let response ← match request with
    | .index request => sendForValue .index (.index request)
    | .bulk request => sendForValue .bulk (.bulk request)
  ofExcept (checkWrite response)

/-- Writes a document, together with its children. -/
def insert (document : Document) : Call Json := do
  let session ← get
  write (← withIds (Dsl.insert session.target session.query document))

/-- Writes documents in one request; no request is needed for none. -/
def insertMany (documents : List Document) : Call Json := do
  if documents.isEmpty then return .null
  let session ← get
  write (.bulk (← withIds (Dsl.insertMany session.target session.query documents)))

def update (values : Document) : Call Json := do
  let session ← get
  write (.index (← withIds (Dsl.update session.target session.query values)))

/-- Deletes what a query finds; whether anything was deleted. -/
def deleteMatching (query : Query) : Call Bool := do
  let session ← get
  let request ← ofExcept (Dsl.delete session.target query)
  let response ← sendForValue .delete (.deleteByQuery request)
  return 0 < ((response.field? "deleted").bind Json.nat?).getD 0

def delete : Call Bool := do
  deleteMatching (← get).query

/-- Deletes a document by its id, together with the clauses of the query. -/
def deleteById (id : String) : Call Bool := do
  deleteMatching ((← get).query.push (.ofCondition (.eq "_id" (.plain (.str id)))))

/-- The operation that a request of a cursor is counted as. -/
def cursorOperation : Request → Operation
  | .clearScroll _ => .clearScroll
  | _ => .scroll

/-- Follows the cursor of the query, to its end or until so many items have been handed out. What
it handed out is in the steps that are returned. -/
def cursor (items : Option Nat) : Call (List Cursor.Step) := do
  let session ← get
  let steps := Cursor.steps session.target session.query session.server
  let steps := match items with
    | some count => Cursor.untilItems count steps
    | none => steps
  set ((Cursor.requests steps).foldl
    (fun session request => (session.exchange (cursorOperation request) request).2) session)
  return steps

end Call

end SearchQuery
