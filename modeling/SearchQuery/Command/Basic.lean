import SearchQuery.Command.Lines
import SearchQuery.Number.Shortest
import SearchQuery.Query.Stored
import SearchQuery.Session.Basic
/-!
# Commands

The commands of the command line, as functions of a session and of the files they are given. A
command writes to the two outputs, and what it has written stays written when it fails.
-/

namespace SearchQuery

namespace Command

/-- Why a command failed. -/
structure Failure where
  /-- What was being done, the outermost first. -/
  context : List String
  /-- The error beneath; none for a failure of the command itself. -/
  cause : Option Error

/-- The message of a failure, with what lies beneath it. -/
def Failure.message (failure : Failure) : String :=
  match failure.context ++ (failure.cause.map Error.message).toList with
  | [] => "Error"
  | [single] => "Error: " ++ single
  | [first, cause] => "Error: " ++ first ++ "\n\nCaused by:\n    " ++ cause
  | first :: causes =>
    "Error: " ++ first ++ "\n\nCaused by:" ++ String.join (causes.mapIdx fun index cause =>
      "\n    " ++ toString index ++ ": " ++ cause)

/-- The outputs of a command beside the session that it uses. -/
structure Shell where
  session : Session
  out : String := ""
  err : String := ""

/-- A command. -/
abbrev Run := ExceptT Failure (StateM Shell)

/-- A file that a command is given: its name, and its text if it is there. -/
structure File where
  name : String
  text : Option String

namespace Run

def fail {α : Type} (context : List String) (cause : Option Error) : Run α :=
  throw { context, cause }

/-- Goes on with what was computed, or fails in a context. -/
def ofExcept {α : Type} (context : List String) : Except Error α → Run α
  | .ok value => pure value
  | .error error => fail context (some error)

/-- Makes a call on the session, in a context. -/
def call {α : Type} (context : List String) (action : Call α) : Run α := do
  let shell ← get
  let (result, session) := action.run.run shell.session
  set { shell with session }
  ofExcept context result

def printLine (line : String) : Run Unit :=
  modify fun shell => { shell with out := shell.out ++ line ++ "\n" }

def reportLine (line : String) : Run Unit :=
  modify fun shell => { shell with err := shell.err ++ line ++ "\n" }

def useQuery (query : Query) : Run Unit :=
  modify fun shell => { shell with session := { shell.session with query } }

def missingFile : Error := .io "No such file or directory"

end Run

open Run

def loadQuery (file : File) : Run Query := do
  let some text := file.text
    | fail ["Failed to read query file " ++ file.name] (some missingFile)
  ofExcept ["Failed to parse query file " ++ file.name] (Query.ofYaml text)

def compile (file : File) : Run Unit := do
  let query ← loadQuery file
  let session := (← get).session
  let request ← ofExcept [] (Dsl.select session.target query)
  printLine request.toJson.pretty

/-- Prints every document that the cursor of a query hands out. -/
def searchAll : Run Unit := do
  let steps ← call [] (Call.cursor none)
  for document in Cursor.documents steps do
    printLine (Json.obj document).compact
  match Cursor.failure? steps with
  | some error => fail [] (some error)
  | none => pure ()

/-- Prints the documents that a query finds, one a line: all of them, or one page with a summary. -/
def search (file : File) (all : Bool) : Run Unit := do
  useQuery (← loadQuery file)
  if all then searchAll
  else
    let documents ← call [] Call.getDocuments
    for document in documents do
      printLine (Json.obj document).compact
    let total ← call [] Call.count
    let took ← call [] Call.took
    reportLine (toString documents.length ++ " of " ++ toString total ++ " documents ("
      ++ (match took with
        | some milliseconds => toString milliseconds
        | none => "?") ++ " ms)")

def getDocument (collection id : String) : Run Unit := do
  useQuery { collection }
  match ← call [] (Call.document id) with
  | some document => printLine (Json.obj document).pretty
  | none => fail ["Document '" ++ id ++ "' not found in '" ++ collection ++ "'"] none

def delete (file : File) (conflicts refresh : Option String) : Run Unit := do
  let query ← loadQuery file
  let query ← match conflicts with
    | some text => ofExcept [] (query.onConflicts text)
    | none => pure query
  let query ← match refresh with
    | some text => ofExcept [] (query.withRefresh text)
    | none => pure query
  useQuery query
  printLine (if ← call [] Call.delete then "Documents deleted" else "Nothing deleted")

def previewLength : Nat := 100

def BadLine.context (bad : BadLine) : String :=
  "Line " ++ toString bad.number ++ " is not a JSON object: "
    ++ String.ofList (bad.line.toList.take previewLength)

/-- Writes batches one after the other, up to the first that fails. -/
def writeBatches : List (List SizedDocument) → Run Unit
  | [] => pure ()
  | batch :: rest => do
    let _ ← call ["Bulk import failed"] (Call.insertMany (batch.map (·.document)))
    writeBatches rest

/-- Writes the documents of a text with one document a line, and returns them. Of the documents in
front of a bad line only whole batches are written. -/
def writeDocuments (collection : String) (file : File) (batchSize : Nat) :
    Run (List SizedDocument) := do
  useQuery { collection }
  let some text := file.text | fail [] (some missingFile)
  let (documents, bad) := readDocuments 1 ((textLines text.toList).map String.ofList)
  let pieces := batches batchSize documents
  match bad with
  | some bad =>
    writeBatches (pieces.filter (max batchSize 1 ≤ ·.length))
    fail [BadLine.context bad] (some (.json "expected an object"))
  | none =>
    writeBatches pieces
    return documents

/-- The size of documents in megabytes, to two places. -/
def megabytes (documents : List SizedDocument) : String :=
  let bytes := documents.foldl (fun bytes document => bytes + document.size) 0
  let (num, den) := ((Binary64.ofNat bytes).div (Binary64.ofNat 1000000)).ratio
  twoPlaces num den

/-- Prints what was imported; `time` is the text of the time it took. -/
def reportImport (documents : List SizedDocument) (time : String) : Run Unit := do
  printLine "Import completed:"
  printLine ("  Documents: " ++ toString documents.length)
  printLine ("  Bytes:     " ++ megabytes documents ++ " MB")
  printLine ("  Time:      " ++ time)

/-- Writes the documents of a text, and prints what was imported unless it is to be quiet. -/
def importDocuments (collection : String) (file : File) (batchSize : Nat) (quiet : Bool)
    (time : String) : Run Unit := do
  let documents ← writeDocuments collection file batchSize
  if !quiet then reportImport documents time

end Command

end SearchQuery
