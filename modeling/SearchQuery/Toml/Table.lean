import SearchQuery.Json.Basic
/-!
# TOML tables

A document is a list of statements that fill a tree of tables. A table may be filled in several
places, but it is defined only once: by its header, by the first dotted key that runs through it,
or as an inline table, which is closed.
-/

namespace SearchQuery

namespace Toml

/-- What a key stands for while a document is read. -/
inductive Node where
  /-- A scalar, an array or an inline table. -/
  | closed (value : Json)
  /-- A table; whether it was never defined itself, and whether dotted keys run through it. -/
  | table (implicit dotted : Bool) (entries : List (String × Node))
  /-- The tables of an array of tables. -/
  | tables (items : List (List (String × Node)))

/-- The entries of a table that is being filled. -/
abbrev Entries := List (String × Node)

/-- One statement of a document. -/
inductive Statement where
  /-- A value under a dotted key. -/
  | pair (path : List String) (value : Json)
  /-- The header of a table. -/
  | table (path : List String)
  /-- The header of one more table of an array. -/
  | tables (path : List String)

mutual

def Node.value : Node → Json
  | .closed value => value
  | .table _ _ entries => .obj (Object.ofList (entryValues entries))
  | .tables items => .arr (itemValues items)

def entryValues : List (String × Node) → Object
  | [] => []
  | (name, node) :: rest => (name, node.value) :: entryValues rest

def itemValues : List (List (String × Node)) → List Json
  | [] => []
  | entries :: rest => .obj (Object.ofList (entryValues entries)) :: itemValues rest

end

def find? (entries : Entries) (key : String) : Option Node :=
  (entries.find? (·.1 == key)).map (·.2)

def put (entries : Entries) (key : String) (node : Node) : Entries :=
  if entries.any (·.1 == key) then
    entries.map fun entry => if entry.1 == key then (key, node) else entry
  else entries ++ [(key, node)]

def changeLast (change : Entries → Option Entries) :
    List Entries → Option (List Entries)
  | [] => none
  | [last] => (change last).map ([·])
  | item :: rest => (changeLast change rest).map (item :: ·)

/-- Puts a value under a dotted key. `dotted` tells whether keys run through the table already. -/
def insertPair (dotted : Bool) (first : Bool) (entries : Entries) (value : Json) :
    List String → Option Entries
  | [] => none
  | [key] =>
    if dotted = first ∨ (find? entries key).isSome then none
    else some (entries ++ [(key, .closed value)])
  | key :: rest =>
    match find? entries key with
    | none => (insertPair true false [] value rest).map fun inner =>
        entries ++ [(key, .table true true inner)]
    | some (.table true isDotted inner) =>
      (insertPair isDotted false inner value rest).map fun inner =>
        put entries key (.table true isDotted inner)
    | some (.tables items) =>
      (changeLast (insertPair false false · value rest) items).map fun items =>
        put entries key (.tables items)
    | _ => none

/-- Changes the table at a path of headers; tables on the way are made where there are none. -/
def changeTable (change : Entries → Option Entries) (entries : Entries) :
    List String → Option Entries
  | [] => change entries
  | key :: rest =>
    match find? entries key with
    | none => (changeTable change [] rest).map fun inner =>
        entries ++ [(key, .table true false inner)]
    | some (.table implicit dotted inner) => (changeTable change inner rest).map fun inner =>
        put entries key (.table implicit dotted inner)
    | some (.tables items) =>
      (changeLast (changeTable change · rest) items).map fun items =>
        put entries key (.tables items)
    | some (.closed _) => none

def defineTable (entries : Entries) (path : List String) : Option Entries :=
  let key := path.getLastD ""
  changeTable (fun parent => match find? parent key with
    | none => some (parent ++ [(key, .table false false [])])
    | some (.table true false inner) => some (put parent key (.table false false inner))
    | _ => none) entries path.dropLast

def defineItem (entries : Entries) (path : List String) : Option Entries :=
  let key := path.getLastD ""
  changeTable (fun parent => match find? parent key with
    | none => some (parent ++ [(key, .tables [[]])])
    | some (.tables items) => some (put parent key (.tables (items ++ [[]])))
    | _ => none) entries path.dropLast

/-- Fills the tables by statements; `current` is the path of the last header. -/
def fill (entries : Entries) (current : List String) : List Statement → Option Entries
  | [] => some entries
  | .pair path value :: rest => do
    fill (← changeTable (insertPair false true · value path) entries current) current rest
  | .table path :: rest => do fill (← defineTable entries path) path rest
  | .tables path :: rest => do fill (← defineItem entries path) path rest

def documentValue (statements : List Statement) : Option Json := do
  let entries ← fill [] [] statements
  return (Node.table false false entries).value

def inlineValue (pairs : List (List String × Json)) : Option Json :=
  documentValue (pairs.map fun (path, value) => .pair path value)

end Toml

end SearchQuery
