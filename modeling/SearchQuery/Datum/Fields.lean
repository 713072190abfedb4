import SearchQuery.Datum.Basic
/-!
# Reading structures

A structure is written as a map, or as a list of its members in their order; in a map the key of a
member is its name or its position. `Fields` is either form, and `Fields.get` finds a member in it.
Reading fails with a short reason.
-/

namespace SearchQuery

/-- The result of reading a value: what was read, or why it cannot be read. -/
abbrev Reading := Except String

namespace Datum

def isName (name : String) : Datum → Bool
  | .str text => text == name
  | _ => false

/-- Whether a key stands for the member with the given position and name. -/
def isMember (position : Nat) (name : String) : Datum → Bool
  | .str text => text == name
  | .count number => number == position
  | _ => false

def isFieldKey : Datum → Bool
  | .str _ | .count _ => true
  | _ => false

end Datum

/-- The value of the entry whose key is wanted; nothing when there is none. More than one entry is
refused. -/
def findEntry (wanted : Datum → Bool) (entries : List (Datum × Datum)) : Reading (Option Datum) :=
  match entries.filter fun entry => wanted entry.1 with
  | [] => .ok none
  | [entry] => .ok (some entry.2)
  | _ => .error "duplicate field"

/-- The members of a structure. -/
inductive Fields where
  | keyed (entries : List (Datum × Datum))
  | positional (items : List Datum)

namespace Fields

/-- The member at the given position, with the given name; nothing when it is left out. -/
def get (fields : Fields) (position : Nat) (name : String) : Reading (Option Datum) :=
  match fields with
  | .keyed entries => findEntry (Datum.isMember position name) entries
  | .positional items => .ok items[position]?

/-- A member that must be there, read by `read`. -/
def required {α : Type} (fields : Fields) (position : Nat) (name : String)
    (read : Datum → Reading α) : Reading α := do
  match ← fields.get position name with
  | some value => read value
  | none => .error ("missing field " ++ name)

/-- A member that may be left out, read by `read`. -/
def optional {α : Type} (fields : Fields) (position : Nat) (name : String) (default : α)
    (read : Datum → Reading α) : Reading α := do
  match ← fields.get position name with
  | some value => read value
  | none => .ok default

/-- Refuses a list with more than `count` members. -/
def atMost (fields : Fields) (count : Nat) : Reading Unit :=
  match fields with
  | .keyed _ => .ok ()
  | .positional items => if items.length ≤ count then .ok () else .error "too many items"

/-- The members under keys that can stand for members. -/
def ofEntries (entries : List (Datum × Datum)) : Reading Fields :=
  if entries.all fun entry => entry.1.isFieldKey then .ok (.keyed entries)
  else .error "expected a name"

def ofDatum : Datum → Reading Fields
  | .map entries => ofEntries entries
  | .list items => .ok (.positional items)
  | _ => .error "expected a structure"

end Fields

namespace Datum

def readText : Datum → Reading String
  | .str text => .ok text
  | _ => .error "expected a string"

def readBool : Datum → Reading Bool
  | .bool value => .ok value
  | _ => .error "expected a boolean"

def readWhole : Datum → Reading Int
  | .count value => .ok value
  | .signed value => .ok value
  | _ => .error "expected a whole number"

/-- A whole number that is not negative and fits sixty-four bits. -/
def readCount (value : Datum) : Reading Nat := do
  let number ← value.readWhole
  if 0 ≤ number ∧ number < 2 ^ 64 then .ok number.toNat else .error "number out of range"

/-- A whole number that fits sixty-four bits with its sign. -/
def readInt (value : Datum) : Reading Int := do
  let number ← value.readWhole
  if -(2 ^ 63) ≤ number ∧ number < 2 ^ 63 then .ok number else .error "number out of range"

/-- Any number, as a floating-point number. -/
def readNumber : Datum → Reading Binary64
  | .float value => .ok value
  | value => do return .ofInt (← value.readWhole)

def readAny (value : Datum) : Reading Json :=
  match value.toJson? with
  | some json => .ok json.canonical
  | none => .error "expected a string as key"

def readObject : Datum → Reading Object
  | .map entries =>
    match entriesToJson? entries with
    | some entries => .ok (Object.ofList (Json.canonicalEntries entries))
    | none => .error "expected a string as key"
  | _ => .error "expected a map"

/-- Null for nothing, or a value. -/
def readOption {α : Type} (read : Datum → Reading α) : Datum → Reading (Option α)
  | .null => .ok none
  | value => (read value).map some

def readList {α : Type} (read : Datum → Reading α) : Datum → Reading (List α)
  | .list items => items.mapM read
  | _ => .error "expected a list"

/-- The element of `all` that has the given word, or stands at the given position. -/
def findWord {α : Type} (all : List α) (word : α → String) (key : Datum) : Reading α :=
  let found := match key with
    | .str text => all.find? (word · == text)
    | .count position => all[position]?
    | _ => none
  match found with
  | some value => .ok value
  | none => .error "unknown variant"

/-- A word: its text, or a map of one entry that has the word as key and null as value. Inside a
condition or an aggregator an empty map will do for null. -/
def readWord {α : Type} (inner : Bool) (all : List α) (word : α → String) : Datum → Reading α
  | .str text => findWord all word (.str text)
  | .map [(key, value)] =>
    if value.isNull ∨ (inner ∧ value.isEmptyMap) then findWord all word key
    else .error "expected nothing behind a word"
  | _ => .error "expected a word"

end Datum

end SearchQuery
