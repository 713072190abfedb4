import SearchQuery.Http.Message
/-!
# Servers

How the server behaves towards one session: it has a script of answers and takes the next one for
each request. A server that is spoken to directly returns values and failures, and once its script
is used up, empty pages; closing a scroll does not touch its script. A server behind HTTP answers
messages, and once its script is used up, it cannot be reached.
-/

namespace SearchQuery

/-- What comes back for a request: a value, nothing, or a failure. -/
abbrev Reply := Except Error (Option Json)

/-- A server with the script of its answers. -/
inductive Server where
  | direct (replies : List Reply) (refusesToClose : Bool)
  | http (address : Http.Url) (answers : List Http.Answer)

namespace Server

def emptyPage : Json :=
  .obj [("hits", .obj [("hits", .arr []), ("total", .single "value" (.int 0))]), ("took", .int 1)]

def closeFailure : Error := .transport none "clear scroll failed"

def silence : Error := .unreachable "error sending request"

/-- Sends a request: what comes back, and the server afterwards. -/
def exchange (server : Server) (request : Request) : Reply × Server :=
  match server, request with
  | .direct _ refuses, .clearScroll _ => (if refuses then .error closeFailure else .ok none, server)
  | .direct [] _, _ => (.ok (some emptyPage), server)
  | .direct (reply :: rest) refuses, _ => (reply, .direct rest refuses)
  | .http _ [], _ => (.error silence, server)
  | .http address (answer :: rest), _ => (answer.read request, .http address rest)

def pageReplies : Server → List Reply
  | .direct replies _ => replies
  | .http _ answers => answers.map fun answer => answer.value.map some

/-- What comes back for a request of a page once the script is used up: a failure, or else an empty
page. -/
def exhaustion : Server → Option Error
  | .direct .. => none
  | .http .. => some silence

end Server

end SearchQuery
