import SearchQuery.Datum.Fields
import SearchQuery.Query.Encode
/-!
# Reading queries

Reads the stored form of a query. Members that are unknown are passed over, and most members may be
left out. A structure may also be a list of its members, but a clause and an aggregation, which
share their map with their condition or aggregator, must be maps.

What stands inside a condition or an aggregator is called inner: there, words and types have more
forms than elsewhere. A condition or aggregator is read from its fields once its sub-query, if any,
has been read, so that the recursion only follows the nesting of the value.
-/

namespace SearchQuery

/-- The instant that a value marks: the map with the tag alone, or a list of one item. -/
def ClauseValue.instant? : Datum → Option Timestamp
  | .map [(key, .str text)] =>
    if key.isMember 0 instantTag then Timestamp.parse text else none
  | .list [.str text] => Timestamp.parse text
  | _ => none

/-- A clause value from JSON; every value that does not mark an instant is a plain one. -/
def ClauseValue.ofJson (value : Json) : ClauseValue :=
  match ClauseValue.instant? (.ofJson value) with
  | some time => .instant time
  | none => .plain value.canonical

def ClauseValue.read (value : Datum) : Reading ClauseValue :=
  match ClauseValue.instant? value with
  | some time => .ok (.instant time)
  | none => do return .plain (← value.readAny)

def ClauseOptions.read (value : Datum) : Reading ClauseOptions := do
  let fields ← Fields.ofDatum value
  fields.atMost 2
  return {
    boost := ← fields.optional 0 "boost" none (Datum.readOption Datum.readNumber)
    innerHits := ← fields.optional 1 "inner_hits" none (Datum.readOption Datum.readAny) }

def SearchField.read (value : Datum) : Reading SearchField := do
  let fields ← Fields.ofDatum value
  fields.atMost 2
  return {
    name := ← fields.required 0 "name" Datum.readText
    boost := ← fields.optional 1 "boost" none (Datum.readOption Datum.readNumber) }

def SortKind.tags : List String := ["basic", "geo_distance"]

def Condition.tags : List String :=
  ["basic", "in", "not_in", "between", "null", "not_null", "date", "date_part", "geo_distance",
    "geo_bounds_in", "nested_doc", "group", "not", "relationship", "parent_id", "script", "search",
    "prefix", "function_score"]

def Aggregator.tags : List String :=
  ["terms", "date_histogram", "cardinality", "composite", "date_range", "exists", "missing",
    "reverse_nested", "nested", "children", "filter", "metric"]

/-- Reads a type: its word, or where it may be numbered also its position in `tags`. -/
def readTag (tags : List String) (numbered : Bool) : Datum → Reading String
  | .str tag => Datum.findWord tags id (.str tag)
  | .count position =>
    if numbered then Datum.findWord tags id (.count position) else .error "expected a type"
  | _ => .error "expected a type"

def tagIn (tags : List String) (numbered : Bool) (entries : List (Datum × Datum)) :
    Reading String := do
  match ← findEntry (Datum.isName "type") entries with
  | some tag => readTag tags numbered tag
  | none => .error "missing field type"

/-- The type of a structure and its fields; in a list the type comes first. -/
def tagged (tags : List String) (numbered : Bool) : Datum → Reading (String × Fields)
  | .map entries => do return (← tagIn tags numbered entries, ← Fields.ofEntries entries)
  | .list (tag :: rest) => do return (← readTag tags numbered tag, .positional rest)
  | _ => .error "expected a type"

def SortKind.read (inner : Bool) (value : Datum) : Reading SortKind := do
  let (tag, fields) ← tagged SortKind.tags inner value
  match tag with
  | "basic" =>
    fields.atMost 2
    return .value (← fields.optional 0 "missing" none (Datum.readOption Datum.readAny))
      (← fields.optional 1 "mode" none (Datum.readOption Datum.readText))
  | "geo_distance" =>
    fields.atMost 3
    return .distance (← fields.required 0 "coordinates" Datum.readAny)
      (← fields.optional 1 "unit" none (Datum.readOption Datum.readText))
      (← fields.optional 2 "distance_type" none (Datum.readOption Datum.readText))
  | _ => .error "unknown variant"

def SortKey.read (inner : Bool) (value : Datum) : Reading SortKey := do
  let fields ← Fields.ofDatum value
  fields.atMost 3
  return {
    column := ← fields.required 0 "column" Datum.readText
    direction := ← fields.optional 1 "direction" .ascending
      (Datum.readWord inner Direction.all Direction.word)
    kind := ← fields.optional 2 "kind" (.value none none) (SortKind.read inner) }

def RequestOptions.read (inner : Bool) (value : Datum) : Reading RequestOptions := do
  let fields ← Fields.ofDatum value
  fields.atMost 5
  return {
    routing := ← fields.optional 0 "routing" none (Datum.readOption Datum.readText)
    parentId := ← fields.optional 1 "parent_id" none (Datum.readOption Datum.readText)
    conflicts := ← fields.optional 2 "conflicts" none
      (Datum.readOption (Datum.readWord inner Conflicts.all Conflicts.word))
    refresh := ← fields.optional 3 "refresh" none
      (Datum.readOption (Datum.readWord inner Refresh.all Refresh.word))
    includeInnerHits := ← fields.optional 4 "include_inner_hits" false Datum.readBool }

/-- The sub-query of a condition or aggregator, which must be there. -/
def needed (query : Reading (Option Query)) : Reading Query := do
  match ← query with
  | some query => .ok query
  | none => .error "missing field query"

def readOperator : Datum → Reading Operator :=
  Datum.readWord true Operator.all Operator.word

/-- Reads a condition of the given type from its fields; `query` is its sub-query. -/
def Condition.ofFields (tag : String) (fields : Fields) (query : Reading (Option Query)) :
    Reading Condition := do
  match tag with
  | "basic" =>
    fields.atMost 4
    return .compare (← fields.required 0 "column" Datum.readText)
      (← fields.required 1 "operator" readOperator)
      (← fields.optional 2 "value" .null ClauseValue.read)
      (← fields.optional 3 "negate" false Datum.readBool)
  | "in" =>
    fields.atMost 2
    return .isIn (← fields.required 0 "column" Datum.readText)
      (← fields.required 1 "values" (Datum.readList ClauseValue.read))
  | "not_in" =>
    fields.atMost 2
    return .isNotIn (← fields.required 0 "column" Datum.readText)
      (← fields.required 1 "values" (Datum.readList ClauseValue.read))
  | "between" =>
    fields.atMost 4
    return .between (← fields.required 0 "column" Datum.readText)
      (← fields.required 1 "low" ClauseValue.read) (← fields.required 2 "high" ClauseValue.read)
      (← fields.optional 3 "negate" false Datum.readBool)
  | "null" =>
    fields.atMost 1
    return .isNull (← fields.required 0 "column" Datum.readText)
  | "not_null" =>
    fields.atMost 1
    return .isNotNull (← fields.required 0 "column" Datum.readText)
  | "date" =>
    fields.atMost 3
    return .date (← fields.required 0 "column" Datum.readText)
      (← fields.required 1 "operator" readOperator)
      (← fields.required 2 "value" ClauseValue.read)
  | "date_part" =>
    fields.atMost 4
    return .datePart (← fields.required 0 "column" Datum.readText)
      (← fields.required 1 "part" (Datum.readWord true DatePart.all DatePart.word))
      (← fields.required 2 "operator" readOperator) (← fields.required 3 "value" Datum.readInt)
  | "geo_distance" =>
    fields.atMost 3
    return .geoDistance (← fields.required 0 "column" Datum.readText)
      (← fields.required 1 "location" Datum.readAny)
      (← fields.required 2 "distance" Datum.readText)
  | "geo_bounds_in" =>
    fields.atMost 2
    return .geoBounds (← fields.required 0 "column" Datum.readText)
      (← fields.required 1 "bounds" Datum.readAny)
  | "nested_doc" =>
    fields.atMost 3
    return .nested (← fields.required 0 "column" Datum.readText) (← needed query)
      (← fields.optional 2 "negate" false Datum.readBool)
  | "group" =>
    fields.atMost 1
    return .group (← needed query)
  | "not" =>
    fields.atMost 1
    return .not (← needed query)
  | "relationship" =>
    fields.atMost 3
    return .related
      (← fields.required 0 "relation" (Datum.readWord true Relation.all Relation.word))
      (← fields.required 1 "document_type" Datum.readText) (← needed query)
  | "parent_id" =>
    fields.atMost 2
    return .parentId (← fields.required 0 "parent_type" Datum.readText)
      (← fields.required 1 "id" ClauseValue.read)
  | "script" =>
    fields.atMost 2
    return .script (← fields.required 0 "source" Datum.readText)
      (← fields.optional 1 "options" [] Datum.readObject)
  | "search" =>
    fields.atMost 5
    return .search (← fields.required 0 "text" Datum.readText)
      (← fields.optional 1 "fields" [] (Datum.readList SearchField.read))
      (← fields.optional 2 "match_type" none (Datum.readOption Datum.readText))
      (← fields.optional 3 "fuzziness" none (Datum.readOption Datum.readAny))
      (← fields.optional 4 "constant_score" false Datum.readBool)
  | "prefix" =>
    fields.atMost 2
    return .startsWith (← fields.required 0 "column" Datum.readText)
      (← fields.required 1 "value" Datum.readText)
  | "function_score" =>
    fields.atMost 2
    return .functionScore (← fields.required 0 "function_type" Datum.readText)
      (← fields.optional 1 "params" [] Datum.readObject)
  | _ => .error ("unknown variant " ++ tag)

/-- Reads an aggregator of the given type from its fields; `query` is its sub-query. -/
def Aggregator.ofFields (tag : String) (fields : Fields) (query : Reading (Option Query)) :
    Reading Aggregator := do
  match tag with
  | "terms" =>
    fields.atMost 2
    return .terms (← fields.required 0 "field" Datum.readText)
      (← fields.optional 1 "options" [] Datum.readObject)
  | "date_histogram" =>
    fields.atMost 2
    return .dateHistogram (← fields.required 0 "field" Datum.readText)
      (← fields.optional 1 "options" [] Datum.readObject)
  | "cardinality" =>
    fields.atMost 1
    return .cardinality (← fields.optional 0 "args" [] Datum.readObject)
  | "composite" =>
    fields.atMost 1
    return .composite (← fields.optional 0 "args" [] Datum.readObject)
  | "date_range" =>
    fields.atMost 1
    return .dateRange (← fields.optional 0 "args" [] Datum.readObject)
  | "exists" =>
    fields.atMost 1
    return .exists (← fields.required 0 "field" Datum.readText)
  | "missing" =>
    fields.atMost 1
    return .missing (← fields.required 0 "field" Datum.readText)
  | "reverse_nested" =>
    fields.atMost 0
    return .reverseNested
  | "nested" =>
    fields.atMost 1
    return .nested (← fields.required 0 "path" Datum.readText)
  | "children" =>
    fields.atMost 1
    return .children (← fields.required 0 "document_type" Datum.readText)
  | "filter" =>
    fields.atMost 1
    return .filter ((← query).getD {})
  | "metric" =>
    fields.atMost 3
    return .metric (← fields.required 0 "metric" (Datum.readWord true Metric.all Metric.word))
      (← fields.optional 1 "field" "" Datum.readText)
      (← fields.optional 2 "script" none (Datum.readOption Datum.readAny))
  | _ => .error ("unknown variant " ++ tag)

/-- Where the sub-query stands among the members of a condition. -/
def Condition.queryPosition : String → Nat
  | "nested_doc" => 1
  | "relationship" => 2
  | _ => 0

/-- A query from its members, the lists of clauses and aggregations already read. -/
def Query.ofFields (inner : Bool) (fields : Fields) (wheres filters postFilters : List Clause)
    (aggregations : List Aggregation) : Reading Query := do
  fields.atMost 10
  return {
    collection := ← fields.optional 0 "collection" "" Datum.readText
    wheres, filters, postFilters, aggregations
    orders := ← fields.optional 5 "orders" [] (Datum.readList (SortKey.read inner))
    columns := ← fields.optional 6 "columns" none
      (Datum.readOption (Datum.readList Datum.readText))
    limit := ← fields.optional 7 "limit" none (Datum.readOption Datum.readCount)
    offset := ← fields.optional 8 "offset" none (Datum.readOption Datum.readCount)
    options := ← fields.optional 9 "options" {} (RequestOptions.read inner) }

mutual

/-- Reads a query. -/
def Query.read (inner : Bool) : Datum → Reading Query
  | .map entries => do
    let fields ← Fields.ofEntries entries
    let wheres ← readClausesUnder inner (Datum.isMember 1 "wheres") entries
    let filters ← readClausesUnder inner (Datum.isMember 2 "filters") entries
    let postFilters ← readClausesUnder inner (Datum.isMember 3 "post_filters") entries
    let aggregations ← readAggregationsUnder inner (Datum.isMember 4 "aggregations") entries
    Query.ofFields inner fields wheres filters postFilters aggregations
  | .list items => do
    let wheres ← readClausesAt inner 1 items
    let filters ← readClausesAt inner 2 items
    let postFilters ← readClausesAt inner 3 items
    let aggregations ← readAggregationsAt inner 4 items
    Query.ofFields inner (.positional items) wheres filters postFilters aggregations
  | _ => .error "expected a query"

/-- Reads the clauses under a wanted key; none when it is missing. -/
def readClausesUnder (inner : Bool) (wanted : Datum → Bool) :
    List (Datum × Datum) → Reading (List Clause)
  | [] => .ok []
  | (key, value) :: rest =>
    if wanted key then
      if rest.any (wanted ·.1) then .error "duplicate field" else readClauses inner value
    else readClausesUnder inner wanted rest

/-- Reads the clauses at a position; none when the list is shorter. -/
def readClausesAt (inner : Bool) : Nat → List Datum → Reading (List Clause)
  | _, [] => .ok []
  | 0, value :: _ => readClauses inner value
  | position + 1, _ :: rest => readClausesAt inner position rest

def readClauses (inner : Bool) : Datum → Reading (List Clause)
  | .list items => readClauseItems inner items
  | _ => .error "expected a list"

def readClauseItems (inner : Bool) : List Datum → Reading (List Clause)
  | [] => .ok []
  | item :: rest => do return (← Clause.read inner item) :: (← readClauseItems inner rest)

/-- Reads a clause. Its own members have names only; a position is that of a member of the
condition, and the name `options` never means a member of the condition. -/
def Clause.read (inner : Bool) : Datum → Reading Clause
  | .map entries => do
    let tag ← tagIn Condition.tags true entries
    let junction ← match ← findEntry (Datum.isName "boolean") entries with
      | some value => Datum.readWord inner Junction.all Junction.word value
      | none => pure .and
    let options ← match ← findEntry (Datum.isName "options") entries with
      | some value => ClauseOptions.read value
      | none => pure {}
    let fields ← Fields.ofEntries (entries.filter fun entry =>
      !entry.1.isName "boolean" && !entry.1.isName "options")
    let condition ← Condition.ofFields tag fields
      (readQueryUnder (Datum.isMember (Condition.queryPosition tag) "query") entries)
    return { condition, junction, options }
  | _ => .error "expected a map"

def readQueryUnder (wanted : Datum → Bool) : List (Datum × Datum) → Reading (Option Query)
  | [] => .ok none
  | (key, value) :: rest =>
    if wanted key then
      if rest.any (wanted ·.1) then .error "duplicate field"
      else do return some (← Query.read true value)
    else readQueryUnder wanted rest

def readQueryAt : Nat → List Datum → Reading (Option Query)
  | _, [] => .ok none
  | 0, value :: _ => do return some (← Query.read true value)
  | position + 1, _ :: rest => readQueryAt position rest

/-- Reads the aggregations under a wanted key; none when it is missing. -/
def readAggregationsUnder (inner : Bool) (wanted : Datum → Bool) :
    List (Datum × Datum) → Reading (List Aggregation)
  | [] => .ok []
  | (key, value) :: rest =>
    if wanted key then
      if rest.any (wanted ·.1) then .error "duplicate field" else readAggregations inner value
    else readAggregationsUnder inner wanted rest

/-- Reads the aggregations at a position; none when the list is shorter. -/
def readAggregationsAt (inner : Bool) : Nat → List Datum → Reading (List Aggregation)
  | _, [] => .ok []
  | 0, value :: _ => readAggregations inner value
  | position + 1, _ :: rest => readAggregationsAt inner position rest

def readAggregations (inner : Bool) : Datum → Reading (List Aggregation)
  | .list items => readAggregationItems inner items
  | _ => .error "expected a list"

def readAggregationItems (inner : Bool) : List Datum → Reading (List Aggregation)
  | [] => .ok []
  | item :: rest => do
    return (← Aggregation.read inner item) :: (← readAggregationItems inner rest)

/-- Reads an aggregation. Its own members have names only; a position is that of a member of the
aggregator. -/
def Aggregation.read (inner : Bool) : Datum → Reading Aggregation
  | .map entries => do
    let some key ← findEntry (Datum.isName "key") entries | .error "missing field key"
    let key ← key.readText
    let children ← readAggregationsUnder inner (Datum.isName "children") entries
    let tag ← tagIn Aggregator.tags true entries
    let fields ← Fields.ofEntries entries
    let aggregator ← Aggregator.ofFields tag fields
      (readQueryUnder (Datum.isMember 0 "query") entries)
    return { key, aggregator, children }
  | _ => .error "expected a map"

end

/-- Reads a condition that stands alone, as a map or as a list behind its type. -/
def Condition.read (value : Datum) : Reading Condition := do
  let (tag, fields) ← tagged Condition.tags false value
  let position := Condition.queryPosition tag
  Condition.ofFields tag fields <| match fields with
    | .keyed entries => readQueryUnder (Datum.isMember position "query") entries
    | .positional items => readQueryAt position items

/-- Reads an aggregator that stands alone, as a map or as a list behind its type. -/
def Aggregator.read (value : Datum) : Reading Aggregator := do
  let (tag, fields) ← tagged Aggregator.tags false value
  Aggregator.ofFields tag fields <| match fields with
    | .keyed entries => readQueryUnder (Datum.isMember 0 "query") entries
    | .positional items => readQueryAt 0 items

/-- Reads a query from JSON. -/
def Query.ofJson (value : Json) : Reading Query := Query.read false (.ofJson value)

end SearchQuery
