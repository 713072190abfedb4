import SearchQuery.Datum.Fields
import SearchQuery.Error
import SearchQuery.Http.Url
import SearchQuery.Json.Parser
import SearchQuery.Request
/-!
# Requests over HTTP

Every request is one HTTP message. Its address is that of the server with a few segments added,
each of them encoded as one segment, and options of the request become parameters of the query.
-/

namespace SearchQuery

namespace Http

/-- The method of a message. -/
inductive Method where
  | get
  | post
  | put
  | delete
deriving DecidableEq

def Method.word : Method → String
  | .get => "GET"
  | .post => "POST"
  | .put => "PUT"
  | .delete => "DELETE"

/-- The body of a message. -/
inductive Body where
  | none
  | json (value : Json)
  /-- Several JSON values, one a line. -/
  | jsonLines (text : String)

def Body.contentType? : Body → Option String
  | .none => Option.none
  | .json _ => some "application/json"
  | .jsonLines _ => some "application/x-ndjson"

/-- A message to the server. -/
structure Message where
  method : Method
  url : Url
  body : Body

/-- The address of a server in its usual form. Only an address that paths can be added to will
do. -/
def serverUrl (text : String) : Except Error Url :=
  match Url.parse text with
  | .error error => .error (.settings ("Invalid cluster url " ++ text ++ ": " ++ error.message))
  | .ok url =>
    if url.hasOpaquePath then .error (.settings ("Cluster url " ++ text ++ " cannot carry a path"))
    else .ok url

/-- A parameter that is left out when there is no value. -/
def optionalParameter (name : String) (value : Option String) : List (String × String) :=
  match value with
  | some value => [(name, value)]
  | none => []

/-- The message for a request to the server at the given address. -/
def Message.ofRequest (server : Url) : Request → Message
  | .search request =>
    let url := server.extend [request.index, "_search"]
    { method := .post
      url := match request.scroll with
        | some keepAlive => url.addQuery [("scroll", keepAlive)]
        | none => url
      body := .json request.body.toJson }
  | .scroll id =>
    { method := .post, url := server.extend ["_search", "scroll"]
      body := .json (.obj [("scroll", .str scrollKeepAlive), ("scroll_id", .str id)]) }
  | .clearScroll id =>
    { method := .delete, url := server.extend ["_search", "scroll"]
      body := .json (.single "scroll_id" (.ofStrings [id])) }
  | .get request =>
    { method := .get, url := server.extend [request.index, "_doc", request.id], body := .none }
  | .deleteByQuery request =>
    { method := .post
      url := (server.extend [request.index, "_delete_by_query"]).addQuery
        (optionalParameter "conflicts" (request.conflicts.map (·.word))
          ++ optionalParameter "refresh" (request.refresh.map (·.word))
          ++ optionalParameter "max_docs" (request.maxDocs.map toString))
      body := .json request.body.toJson }
  | .index request =>
    let parameters := optionalParameter "routing" (request.routing.or request.parent)
    if request.isPartial then
      { method := .post
        url := (server.extend [request.index, "_update", request.id]).addQuery parameters
        body := .json (.obj [("doc", .obj request.body), ("doc_as_upsert", .bool true)]) }
    else
      { method := .put
        url := (server.extend [request.index, "_doc", request.id]).addQuery parameters
        body := .json (.obj request.body) }
  | .bulk request =>
    { method := .post, url := server.extend ["_bulk"], body := .jsonLines request.lines }

/-- What the server answers to a message. -/
structure Answer where
  status : Nat
  body : String

def Answer.ofJson (value : Json) : Reading Answer := do
  let fields ← Fields.ofDatum (.ofJson value)
  fields.atMost 2
  return {
    status := ← fields.required 0 "status" Datum.readCount
    body := ← fields.required 1 "body" Datum.readText }

/-- The value in an answer: its body, if the status tells success. -/
def Answer.value (answer : Answer) : Except Error Json :=
  if 200 ≤ answer.status ∧ answer.status < 300 then
    match Json.parse answer.body with
    | some value => .ok value.canonical
    | none => .error (.json "invalid JSON in an answer")
  else .error (.transport (some answer.status) answer.body)

/-- Reads the answer to a request. That a document is not found is no failure. -/
def Answer.read (answer : Answer) (request : Request) : Except Error (Option Json) :=
  match request with
  | .get _ => if answer.status = 404 then .ok none else answer.value.map some
  | _ => answer.value.map some

end Http

end SearchQuery
