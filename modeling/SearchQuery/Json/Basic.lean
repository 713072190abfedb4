import SearchQuery.Number.Binary64
/-!
# JSON values

Values are plain data. Whole numbers and floating-point numbers are told apart, since `2` and `2.0`
are different values of the format. The entries of an object are a list of pairs: the operations
here keep a list with strictly increasing names that way, and `Json.canonical` brings any value
into that form, the last of several entries of one name winning.
-/

namespace SearchQuery

/-- A JSON value. -/
inductive Json where
  | null
  | bool (value : Bool)
  | int (value : Int)
  | float (value : Binary64)
  | str (value : String)
  | arr (items : List Json)
  | obj (entries : List (String × Json))
deriving BEq, Inhabited

/-- The entries of a JSON object. -/
abbrev Object := List (String × Json)

namespace Object

/-- The value of the first entry with the given name. -/
def get? : Object → String → Option Json
  | [], _ => none
  | (key, value) :: rest, name => if key = name then some value else get? rest name

def has (entries : Object) (name : String) : Bool := (get? entries name).isSome

/-- Puts an entry in its place in a list of increasing names, over an entry of the same name. -/
def insert : Object → String → Json → Object
  | [], name, value => [(name, value)]
  | (key, old) :: rest, name, value =>
    if name = key then (name, value) :: rest
    else if name < key then (name, value) :: (key, old) :: rest
    else (key, old) :: insert rest name value

def erase (entries : Object) (name : String) : Object := entries.filter (·.1 != name)

/-- An object from entries in any order; a later entry replaces an earlier one of its name. -/
def ofList (entries : List (String × Json)) : Object :=
  entries.foldl (fun object entry => object.insert entry.1 entry.2) []

def single (name : String) (value : Json) : Object := [(name, value)]

end Object

namespace Json

def single (name : String) (value : Json) : Json := .obj (Object.single name value)

/-- The object that holds each given entry, in any order. -/
def ofList (entries : List (String × Json)) : Json := .obj (Object.ofList entries)

/-- A number, or null for one that JSON cannot write. -/
def ofBinary64 (x : Binary64) : Json := if x.isFinite then .float x else .null

def ofStrings (texts : List String) : Json := .arr (texts.map .str)

def field? : Json → String → Option Json
  | .obj entries, name => Object.get? entries name
  | _, _ => none

def str? : Json → Option String
  | .str text => some text
  | _ => none

def bool? : Json → Option Bool
  | .bool value => some value
  | _ => none

def nat? : Json → Option Nat
  | .int value => if 0 ≤ value then some value.toNat else none
  | _ => none

def arr? : Json → Option (List Json)
  | .arr items => some items
  | _ => none

def obj? : Json → Option Object
  | .obj entries => some entries
  | _ => none

def isNull : Json → Bool
  | .null => true
  | _ => false

def isObject : Json → Bool
  | .obj _ => true
  | _ => false

mutual

/-- The same value with the entries of every object in increasing order of their names, one entry
a name, and null for every number that JSON cannot write. -/
def canonical : Json → Json
  | .null => .null
  | .bool value => .bool value
  | .int value => .int value
  | .float value => ofBinary64 value
  | .str value => .str value
  | .arr items => .arr (canonicalItems items)
  | .obj entries => .obj (Object.ofList (canonicalEntries entries))

/-- Every item in canonical form. -/
def canonicalItems : List Json → List Json
  | [] => []
  | item :: rest => item.canonical :: canonicalItems rest

/-- Every member in canonical form, the entries in the order given. -/
def canonicalEntries : List (String × Json) → List (String × Json)
  | [] => []
  | (name, value) :: rest => (name, value.canonical) :: canonicalEntries rest

end

end Json

end SearchQuery
