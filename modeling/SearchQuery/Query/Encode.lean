import SearchQuery.Query.Basic
/-!
# Queries as JSON

The stored form of a query. Every structure is one object whose members stand in a fixed order;
members that are optional and absent are left out where the format says so. A clause shares its
object with its condition, and so does an aggregation with its aggregator.

The options of a script condition and the options of its clause have the same name, so the object
of such a clause may hold two entries of that name; `Json.canonical` keeps the second.
-/

namespace SearchQuery

def instantTag : String := "$date"

/-- A clause value: an instant is the one-entry object that marks it. -/
def ClauseValue.toJson : ClauseValue → Json
  | .instant time => .single instantTag (.str time.text)
  | .plain value => value

/-- An optional text, null when absent. -/
def encodeText : Option String → Json
  | some text => .str text
  | none => .null

/-- An optional count, null when absent. -/
def encodeCount : Option Nat → Json
  | some n => .int n
  | none => .null

def encodeSome (name : String) (value : Option Json) : Object :=
  match value with
  | some value => [(name, value)]
  | none => []

def ClauseOptions.toJson (options : ClauseOptions) : Json :=
  .obj (encodeSome "boost" (options.boost.map .float)
    ++ encodeSome "inner_hits" options.innerHits)

def SearchField.toJson (field : SearchField) : Json :=
  .obj (("name", .str field.name) :: encodeSome "boost" (field.boost.map .float))

def SortKind.toJson : SortKind → Json
  | .value missing mode =>
    .obj (("type", .str "basic") :: encodeSome "missing" missing
      ++ encodeSome "mode" (mode.map .str))
  | .distance coordinates unit distanceType =>
    .obj (("type", .str "geo_distance") :: ("coordinates", coordinates)
      :: encodeSome "unit" (unit.map .str) ++ encodeSome "distance_type" (distanceType.map .str))

def SortKey.toJson (key : SortKey) : Json :=
  .obj [("column", .str key.column), ("direction", .str key.direction.word),
    ("kind", key.kind.toJson)]

def RequestOptions.toJson (options : RequestOptions) : Json :=
  .obj (encodeSome "routing" (options.routing.map .str)
    ++ encodeSome "parent_id" (options.parentId.map .str)
    ++ encodeSome "conflicts" (options.conflicts.map (.str ·.word))
    ++ encodeSome "refresh" (options.refresh.map (.str ·.word))
    ++ [("include_inner_hits", .bool options.includeInnerHits)])

mutual

/-- A query. -/
def Query.toJson : Query → Json
  | { collection, wheres, filters, postFilters, aggregations, orders, columns, limit, offset,
      options } =>
    .obj [("collection", .str collection), ("wheres", .arr (encodeClauses wheres)),
      ("filters", .arr (encodeClauses filters)), ("post_filters", .arr (encodeClauses postFilters)),
      ("aggregations", .arr (encodeAggregations aggregations)),
      ("orders", .arr (orders.map SortKey.toJson)),
      ("columns", (columns.map Json.ofStrings).getD .null), ("limit", encodeCount limit),
      ("offset", encodeCount offset), ("options", options.toJson)]

def encodeClauses : List Clause → List Json
  | [] => []
  | clause :: rest => clause.toJson :: encodeClauses rest

/-- A clause: the members of its condition, then its own. -/
def Clause.toJson : Clause → Json
  | { condition, junction, options } =>
    .obj (condition.entries ++ [("boolean", .str junction.word)]
      ++ (if options.isEmpty then [] else [("options", options.toJson)]))

/-- The members of a condition, its type first. -/
def Condition.entries : Condition → Object
  | .compare column operator value negate =>
    [("type", .str "basic"), ("column", .str column), ("operator", .str operator.word),
      ("value", value.toJson), ("negate", .bool negate)]
  | .isIn column values =>
    [("type", .str "in"), ("column", .str column), ("values", .arr (values.map ClauseValue.toJson))]
  | .isNotIn column values =>
    [("type", .str "not_in"), ("column", .str column),
      ("values", .arr (values.map ClauseValue.toJson))]
  | .between column low high negate =>
    [("type", .str "between"), ("column", .str column), ("low", low.toJson), ("high", high.toJson),
      ("negate", .bool negate)]
  | .isNull column => [("type", .str "null"), ("column", .str column)]
  | .isNotNull column => [("type", .str "not_null"), ("column", .str column)]
  | .date column operator value =>
    [("type", .str "date"), ("column", .str column), ("operator", .str operator.word),
      ("value", value.toJson)]
  | .datePart column part operator value =>
    [("type", .str "date_part"), ("column", .str column), ("part", .str part.word),
      ("operator", .str operator.word), ("value", .int value)]
  | .geoDistance column location distance =>
    [("type", .str "geo_distance"), ("column", .str column), ("location", location),
      ("distance", .str distance)]
  | .geoBounds column bounds =>
    [("type", .str "geo_bounds_in"), ("column", .str column), ("bounds", bounds)]
  | .nested column query negate =>
    [("type", .str "nested_doc"), ("column", .str column), ("query", query.toJson),
      ("negate", .bool negate)]
  | .group query => [("type", .str "group"), ("query", query.toJson)]
  | .not query => [("type", .str "not"), ("query", query.toJson)]
  | .related relation documentType query =>
    [("type", .str "relationship"), ("relation", .str relation.word),
      ("document_type", .str documentType), ("query", query.toJson)]
  | .parentId parentType id =>
    [("type", .str "parent_id"), ("parent_type", .str parentType), ("id", id.toJson)]
  | .script source options =>
    [("type", .str "script"), ("source", .str source), ("options", .obj options)]
  | .search text fields matchType fuzziness constantScore =>
    [("type", .str "search"), ("text", .str text), ("fields", .arr (fields.map SearchField.toJson)),
      ("match_type", encodeText matchType), ("fuzziness", fuzziness.getD .null),
      ("constant_score", .bool constantScore)]
  | .startsWith column value =>
    [("type", .str "prefix"), ("column", .str column), ("value", .str value)]
  | .functionScore functionType params =>
    [("type", .str "function_score"), ("function_type", .str functionType), ("params", .obj params)]

def encodeAggregations : List Aggregation → List Json
  | [] => []
  | aggregation :: rest => aggregation.toJson :: encodeAggregations rest

/-- An aggregation: its key, the members of its aggregator, and its children if it has any. -/
def Aggregation.toJson : Aggregation → Json
  | { key, aggregator, children } =>
    .obj (("key", .str key) :: aggregator.entries
      ++ (if children.isEmpty then [] else [("children", .arr (encodeAggregations children))]))

/-- The members of an aggregator, its type first. -/
def Aggregator.entries : Aggregator → Object
  | .terms field options =>
    [("type", .str "terms"), ("field", .str field), ("options", .obj options)]
  | .dateHistogram field options =>
    [("type", .str "date_histogram"), ("field", .str field), ("options", .obj options)]
  | .cardinality args => [("type", .str "cardinality"), ("args", .obj args)]
  | .composite args => [("type", .str "composite"), ("args", .obj args)]
  | .dateRange args => [("type", .str "date_range"), ("args", .obj args)]
  | .exists field => [("type", .str "exists"), ("field", .str field)]
  | .missing field => [("type", .str "missing"), ("field", .str field)]
  | .reverseNested => [("type", .str "reverse_nested")]
  | .nested path => [("type", .str "nested"), ("path", .str path)]
  | .children documentType => [("type", .str "children"), ("document_type", .str documentType)]
  | .filter query => [("type", .str "filter"), ("query", query.toJson)]
  | .metric metric field script =>
    ("type", .str "metric") :: ("metric", .str metric.word) :: ("field", .str field)
      :: encodeSome "script" script

end

end SearchQuery
