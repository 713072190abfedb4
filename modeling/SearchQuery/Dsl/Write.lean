import SearchQuery.Dsl.Target
import SearchQuery.Request
/-!
# Compiled writes

A document carries its metadata among its fields: its id, its routing and parent, and documents that
are written together with it. A write takes the metadata out. A document without an id gets a fresh
one, numbered by a counter that runs through all writes of a session.
-/

namespace SearchQuery

/-- The id with the given number, in the form of a time-ordered unique identifier. -/
def IdSupply.idText (number : Nat) : String :=
  let digits := Nat.toDigits 16 number
  "00000000-0000-7000-8000-" ++ String.ofList (List.replicate (12 - digits.length) '0' ++ digits)

/-- A supply of fresh ids: the ids by their numbers, and how many have been given out. -/
structure IdSupply where
  text : Nat → String := IdSupply.idText
  used : Nat := 0

def freshId : StateM IdSupply String := fun supply =>
  (supply.text supply.used, { supply with used := supply.used + 1 })

namespace Dsl

/-- A document taken apart. -/
structure Prepared where
  id : String
  routing : Option String
  parent : Option String
  /-- The writes of the documents that belong to this one. -/
  children : List BulkOperation
  body : Document

/-- The value of a field, unless it is null or missing. -/
def nonNull? (document : Document) (name : String) : Option Json :=
  (Object.get? document name).filter (!·.isNull)

/-- The id that a document carries: its `_id`, or else its `id`. -/
def ownId? (document : Document) : Option String :=
  ((nonNull? document "_id").or (nonNull? document "id")).map Json.plainText

def withoutId (document : Document) : Document :=
  Object.erase (Object.erase document "_id") "id"

/-- The id that a document carries, or a fresh one. -/
def idOf (document : Document) : StateM IdSupply String :=
  match ownId? document with
  | some id => pure id
  | none => freshId

/-- The write of a child document. A child is an object that holds the document under `document`,
or is the document itself; anything else is a document with that one field. -/
def childOperation (index parentId : String) (child : Json) : StateM IdSupply BulkOperation := do
  let fields := match child with
    | .obj entries => entries
    | other => Object.single "document" other
  let id ← idOf fields
  let rest := withoutId fields
  let source := match Object.get? rest "document" with
    | some (.obj document) => document
    | _ => Object.erase rest "document"
  return {
    action := .single "index" (.obj [("_id", .str id), ("_index", .str index),
      ("parent", .str parentId)])
    source }

/-- The name of the field that holds documents written together with the document. -/
def childrenKey : String := "child_documents"

/-- Takes a document apart. Routing and parent in the document win over those of the request. -/
def prepare (index : String) (options : RequestOptions) (document : Document) :
    StateM IdSupply Prepared := do
  let id ← idOf document
  let children ← match Object.get? document childrenKey with
    | some (.arr children) => children.mapM (childOperation index id)
    | _ => pure []
  let rest := Object.erase (withoutId document) childrenKey
  return {
    id
    routing := ((Object.get? rest "_routing").map Json.plainText).or options.routing
    parent := ((Object.get? rest "_parent").map Json.plainText).or options.parentId
    children
    body := Object.erase (Object.erase rest "_routing") "_parent" }

def Prepared.operation (prepared : Prepared) (index : String) : BulkOperation :=
  let optional (name : String) (value : Option String) : Object :=
    match value with
    | some text => [(name, .str text)]
    | none => []
  { action := .single "index" (.obj ([("_id", .str prepared.id), ("_index", .str index)]
      ++ optional "parent" prepared.parent ++ optional "routing" prepared.routing))
    source := prepared.body }

def Prepared.request (prepared : Prepared) (index : String) (isPartial : Bool) : IndexRequest :=
  { index, id := prepared.id, body := prepared.body, routing := prepared.routing
    parent := prepared.parent, isPartial }

variable (target : Target)

/-- The insert of one document. With children it is a bulk request, the children first. -/
def insert (query : Query) (document : Document) : StateM IdSupply WriteRequest := do
  let index := target.indexName query.collection
  let prepared ← prepare index query.options document
  if prepared.children.isEmpty then return .index (prepared.request index false)
  return .bulk { operations := prepared.children ++ [prepared.operation index] }

/-- The insert of several documents, each behind its children. -/
def insertMany (query : Query) (documents : List Document) : StateM IdSupply BulkRequest := do
  let index := target.indexName query.collection
  let blocks ← documents.mapM fun document => do
    let prepared ← prepare index query.options document
    return prepared.children ++ [prepared.operation index]
  return { operations := blocks.flatten }

/-- The partial update of one document; its children are not written. -/
def update (query : Query) (values : Document) : StateM IdSupply IndexRequest := do
  let index := target.indexName query.collection
  let prepared ← prepare index query.options values
  return prepared.request index true

end Dsl

end SearchQuery
