import SearchQuery.Json.Basic
/-!
# Data

What queries and settings are read from: values like those of JSON, except that the keys of a map
may be values of any kind. A whole number behind a minus sign is told apart from one without, since
only the latter can be the position of something.
-/

namespace SearchQuery

/-- A value that something is read from. -/
inductive Datum where
  | null
  | bool (value : Bool)
  /-- A whole number without a minus sign. -/
  | count (value : Nat)
  /-- A whole number behind a minus sign. -/
  | signed (value : Int)
  | float (value : Binary64)
  | str (value : String)
  | list (items : List Datum)
  | map (entries : List (Datum × Datum))

instance : Inhabited Datum := ⟨.null⟩

namespace Datum

mutual

def ofJson : Json → Datum
  | .null => .null
  | .bool value => .bool value
  | .int value => if 0 ≤ value then .count value.toNat else .signed value
  | .float value => .float value
  | .str value => .str value
  | .arr items => .list (ofItems items)
  | .obj entries => .map (ofEntries entries)

def ofItems : List Json → List Datum
  | [] => []
  | item :: rest => ofJson item :: ofItems rest

def ofEntries : List (String × Json) → List (Datum × Datum)
  | [] => []
  | (name, value) :: rest => (.str name, ofJson value) :: ofEntries rest

end

mutual

/-- The data as a JSON value; nothing if the key of some map is no text. -/
def toJson? : Datum → Option Json
  | .null => some .null
  | .bool value => some (.bool value)
  | .count value => some (.int value)
  | .signed value => some (.int value)
  | .float value => some (.float value)
  | .str value => some (.str value)
  | .list items => (itemsToJson? items).map .arr
  | .map entries => (entriesToJson? entries).map .obj

def itemsToJson? : List Datum → Option (List Json)
  | [] => some []
  | item :: rest => do return (← item.toJson?) :: (← itemsToJson? rest)

def entriesToJson? : List (Datum × Datum) → Option (List (String × Json))
  | [] => some []
  | (key, value) :: rest => do
    let .str name := key | none
    return (name, ← value.toJson?) :: (← entriesToJson? rest)

end

mutual

/-- A JSON value is found again in the data made of it. -/
theorem toJson?_ofJson : (value : Json) → (ofJson value).toJson? = some value
  | .null | .bool _ | .float _ | .str _ => by simp [ofJson, toJson?]
  | .int value => by
    rw [ofJson]
    split
    next h => rw [toJson?, Int.toNat_of_nonneg h]
    next => rw [toJson?]
  | .arr items => by simp [ofJson, toJson?, itemsToJson?_ofItems items]
  | .obj entries => by simp [ofJson, toJson?, entriesToJson?_ofEntries entries]

/-- The items of an array are found again. -/
theorem itemsToJson?_ofItems : (items : List Json) → itemsToJson? (ofItems items) = some items
  | [] => by simp [ofItems, itemsToJson?]
  | item :: rest => by
    simp [ofItems, itemsToJson?, toJson?_ofJson item, itemsToJson?_ofItems rest]

/-- The entries of an object are found again. -/
theorem entriesToJson?_ofEntries :
    (entries : List (String × Json)) → entriesToJson? (ofEntries entries) = some entries
  | [] => by simp [ofEntries, entriesToJson?]
  | (name, value) :: rest => by
    simp [ofEntries, entriesToJson?, toJson?_ofJson value, entriesToJson?_ofEntries rest]

end

def isNull : Datum → Bool
  | .null => true
  | _ => false

def isEmptyMap : Datum → Bool
  | .map [] => true
  | _ => false

end Datum

end SearchQuery
