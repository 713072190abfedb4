import SearchQuery.Dsl.Search
import SearchQuery.Response
import SearchQuery.Server
/-!
# Cursors

A cursor reads every matching document, page by page, up to the limit of its query. What it does is
a list of steps: the requests it sends and the items it hands out, in order. The list follows the
replies of the server, and ends at the first page that is empty, that reaches the limit or that
opens no further page. In the first two cases the scroll is closed.
-/

namespace SearchQuery

namespace Cursor

def pageSize : Nat := 100

/-- One step of a cursor. -/
inductive Step where
  | request (request : Request)
  | document (document : Document)
  /-- The failure that ends the cursor. -/
  | failure (error : Error)

/-- How a cursor reads pages. -/
structure Settings where
  limit : Option Nat
  includeInnerHits : Bool

/-- The documents of a page that are still within the limit. -/
def withinLimit (settings : Settings) (yielded : Nat) (documents : List Document) :
    List Document :=
  match settings.limit with
  | some limit => documents.take (limit - yielded)
  | none => documents

/-- Whether the limit is reached. -/
def isReached (settings : Settings) (yielded : Nat) : Bool :=
  match settings.limit with
  | some limit => limit ≤ yielded
  | none => false

/-- Closes a scroll, if there is one. -/
def release : Option String → List Step
  | some id => [.request (.clearScroll id)]
  | none => []

/-- The steps from the request of a page on, when `yielded` documents have been handed out.
`exhaustion` is what comes back once the replies are used up: a failure, or an empty page. -/
def pages (settings : Settings) (exhaustion : Option Error) :
    List Reply → Request → Nat → List Step
  | [], request, _ => .request request :: (exhaustion.map .failure).toList
  | reply :: rest, request, yielded =>
    .request request :: match reply with
    | .error error => [.failure error]
    | .ok value =>
      let page := SearchResults.ofResponse settings.includeInnerHits (value.getD .null)
      if page.documents.isEmpty then release page.scrollId?
      else
        let shown := withinLimit settings yielded page.documents
        let yielded := yielded + shown.length
        shown.map .document ++
          if isReached settings yielded then release page.scrollId?
          else match page.scrollId? with
            | some id => pages settings exhaustion rest (.scroll id) yielded
            | none => []

def opening (target : Target) (query : Query) : Except Error SearchRequest := do
  let request ← Dsl.select target query
  return { request with
    body := { request.body with size := some pageSize, offset := none }
    scroll := some scrollKeepAlive }

/-- The steps of the cursor of a query. A query that does not compile fails at once. -/
def steps (target : Target) (query : Query) (server : Server) : List Step :=
  match opening target query with
  | .error error => [.failure error]
  | .ok request =>
    pages { limit := query.limit, includeInnerHits := query.options.includeInnerHits }
      server.exhaustion server.pageReplies (.search request) 0

/-- The steps until so many items have been handed out; nothing happens after the last of them. -/
def untilItems : Nat → List Step → List Step
  | _, [] => []
  | 0, _ :: _ => []
  | count + 1, .request request :: rest => .request request :: untilItems (count + 1) rest
  | count + 1, item :: rest => item :: untilItems count rest

def documents (steps : List Step) : List Document :=
  steps.filterMap fun
    | .document document => some document
    | _ => none

/-- The failure that ends the steps, if one does. -/
def failure? (steps : List Step) : Option Error :=
  steps.findSome? fun
    | .failure error => some error
    | _ => none

def requests (steps : List Step) : List Request :=
  steps.filterMap fun
    | .request request => some request
    | _ => none

end Cursor

end SearchQuery
