import SearchQuery.Dsl.Grouping
import SearchQuery.Dsl.Target
import SearchQuery.Json.Printer
/-!
# Compiled clauses

Every condition has a shape in the query language of the server, which may still have to be negated
as a whole. Clause options go into the shape before it is negated. Sub-queries are compiled under
the collection of the outermost query; only their clauses matter.
-/

namespace SearchQuery

namespace Dsl

/-- The three contexts of a compiled query. -/
structure Contexts where
  query : Option Json := none
  filter : Option Json := none
  postFilter : Option Json := none

/-- The shape of a condition, and whether its opposite is meant. -/
structure Shape where
  query : Json
  negated : Bool := false

def isTruthy : Json → Bool
  | .null => false
  | .bool value => value
  | .int value => value != 0
  | .float value => !value.isZero
  | .str text => text != "" && text != "0"
  | .arr items => !items.isEmpty
  | .obj _ => true

/-- A comparison of a column with a value. Null and the operator `exists` ask whether the column is
there at all. -/
def compare (column : String) (operator : Operator) (value : Json) (negate : Bool) : Shape :=
  let query : Json :=
    if value.isNull ∨ operator = .exists then .single "exists" (.single "field" (.str column))
    else if operator = .like then
      let pattern := match value with
        | .str text => String.ofList (text.toList.map fun c => if c = '%' then '*' else c)
        | other => other.compact
      .single "wildcard" (.single column (.str pattern))
    else match operator.rangeKey with
      | some bound => .single "range" (.single column (.single bound value))
      | none => .single "term" (.single column value)
  { query
    negated := negate
      || (operator = .ne && !value.isNull)
      || (operator = .eq && value.isNull)
      || (operator = .exists && !isTruthy value) }

/-- A column between two values, or outside of them, the bounds included either way. -/
def between (column : String) (low high : Json) (negate : Bool) : Json :=
  if negate then
    should [.single "range" (.single column (.single "lte" low)),
      .single "range" (.single column (.single "gte" high))]
  else .single "range" (.single column (.obj [("gte", low), ("lte", high)]))

def script (source : String) (options : Object) : Json :=
  .single "script" (.single "script" (.obj (Object.insert options "source" (.str source))))

/-- The comparison sign inside a script, for the operators that compare numbers. -/
def scriptComparison : Operator → Except Error String
  | .eq => .ok "=="
  | .like => .error (.invalidOperator Operator.like.word)
  | .exists => .error (.invalidOperator Operator.exists.word)
  | operator => .ok operator.word

/-- A script that compares a component of a date column with a number. -/
def datePart (column : String) (part : DatePart) (comparison : String) (value : Int) : Json :=
  let source := "doc." ++ column ++ ".size() > 0 && doc." ++ column ++ ".date."
    ++ part.scriptProperty ++ " " ++ comparison ++ " params.value"
  script source [("params", .single "value" (.int value))]

/-- A searched field in the notation of the server: its name, and its weight behind a caret. -/
def searchedField (collection : String) (field : SearchField) : String :=
  bareColumn collection field.name ++ match field.boost with
    | some boost => "^" ++ DecimalLayout.plain.text boost
    | none => ""

/-- A full-text search over one field, over several, or over all when none is given. -/
def search (collection text : String) (fields : List SearchField) (matchType : Option String)
    (fuzziness : Option Json) (constantScore : Bool) : Json :=
  let withFuzziness (object : Object) : Json := .obj <| match fuzziness with
    | some value => Object.insert object "fuzziness" value
    | none => object
  let query := match fields.map (searchedField collection) with
    | [] => .single "match" (.single "_all" (withFuzziness [("query", .str text)]))
    | [field] => .single "match" (.single field (withFuzziness [("query", .str text)]))
    | several => .single "multi_match" (withFuzziness [("fields", .ofStrings several),
        ("query", .str text), ("type", .str (matchType.getD "most_fields"))])
  if constantScore then .single "constant_score" (.single "query" query) else query

/-- A field of a `term` query with a boost: the value moves into an object, unless it is one. -/
def boostedField (boost : Json) : Json → Json
  | .obj entries => .obj (Object.insert entries "boost" boost)
  | value => .obj [("boost", boost), ("value", value)]

/-- Puts clause options into the object under the only name of a shape. A boost of a `term` query
goes into each of its fields. -/
def applyOptions (query : Json) (options : ClauseOptions) : Json :=
  match query with
  | .obj ((name, .obj inner) :: rest) =>
    let inner := match options.boost with
      | none => inner
      | some boost =>
        if name = "term" then inner.map fun (field, value) =>
          (field, boostedField (.ofBinary64 boost) value)
        else Object.insert inner "boost" (.ofBinary64 boost)
    let inner := match options.innerHits with
      | none => inner
      | some (.obj settings) => Object.insert inner "inner_hits" (.obj settings)
      | some _ => Object.insert inner "inner_hits" (.obj [])
    .obj ((name, .obj inner) :: rest)
  | other => other

/-- The query of a shape: with the options of its clause, then negated if its opposite is meant. -/
def Shape.finish (shape : Shape) (options : ClauseOptions) : Json :=
  let query := applyOptions shape.query options
  if shape.negated then mustNot [query] else query

/-- The one tree of a sub-query that may not score and filter at once. -/
def Contexts.single (contexts : Contexts) (context : String) : Except Error Json :=
  match contexts.query, contexts.filter with
  | some _, some _ => .error (.conflictingContexts context)
  | some query, none => .ok query
  | none, some filter => .ok filter
  | none, none => .ok matchAll

/-- The one tree of a sub-query that may both score and filter. -/
def Contexts.joined (contexts : Contexts) : Json :=
  match contexts.query, contexts.filter with
  | query, some filter => attachFilter query filter
  | some query, none => query
  | none, none => matchAll

/-- The name of the query that a relationship compiles to. -/
def relationContext : Relation → String
  | .parent => "has_parent"
  | .child => "has_child"

variable (target : Target) (collection : String)

mutual

/-- The contexts of a query. -/
def contexts : Query → Except Error Contexts
  | { wheres, filters, postFilters, .. } => do
    let query ← clauses wheres
    let filter ← clauses filters
    let postFilter ← clauses postFilters
    return { query := group query, filter := group filter, postFilter := group postFilter }

/-- Clauses one after the other. -/
def clauses : List Clause → Except Error (List (Junction × Json))
  | [] => .ok []
  | { condition, junction, options } :: rest => do
    let shape ← shapeOf condition
    let others ← clauses rest
    return (junction, shape.finish options) :: others

/-- The shape of a condition. -/
def shapeOf : Condition → Except Error Shape
  | .compare column operator value negate =>
    .ok (compare (bareColumn collection column) operator (target.render value) negate)
  | .isIn column values =>
    .ok { query := .single "terms" (.single (bareColumn collection column)
      (.arr (values.map target.render))) }
  | .isNotIn column values =>
    .ok { query := .single "terms" (.single (bareColumn collection column)
            (.arr (values.map target.render)))
          negated := true }
  | .between column low high negate =>
    .ok { query := between (bareColumn collection column) (target.render low)
            (target.render high) negate }
  | .isNull column => .ok (compare (bareColumn collection column) .eq .null false)
  | .isNotNull column => .ok (compare (bareColumn collection column) .ne .null false)
  | .date column operator value =>
    let column := bareColumn collection column
    if operator = .eq then
      .ok { query := between column (target.render value) (target.render value) false }
    else .ok (compare column operator (target.render value) false)
  | .datePart column part operator value => do
    let comparison ← scriptComparison operator
    return { query := datePart (bareColumn collection column) part comparison value }
  | .geoDistance column location distance =>
    .ok { query := .single "geo_distance" (.obj (Object.insert [("distance", .str distance)]
            (bareColumn collection column) location)) }
  | .geoBounds column bounds =>
    .ok { query := .single "geo_bounding_box" (.single (bareColumn collection column) bounds) }
  | .nested column query negate => do
    let inner ← (← contexts query).single "nested"
    return { query := .single "nested" (.obj [("path", .str (bareColumn collection column)),
               ("query", inner)])
             negated := negate }
  | .group query => do
    return { query := (← contexts query).joined }
  | .not query => do
    let inner ← (← contexts query).single "not"
    return { query := mustNot [inner] }
  | .related relation documentType query => do
    let inner ← (← contexts query).single (relationContext relation)
    match relation with
    | .parent =>
      return { query := .single "has_parent" (.obj [("parent_type", .str documentType),
                 ("query", inner)]) }
    | .child =>
      return { query := .single "has_child" (.obj [("query", inner),
                 ("type", .str documentType)]) }
  | .parentId parentType id =>
    .ok { query := .single "parent_id" (.obj [("id", target.render id),
            ("type", .str parentType)]) }
  | .script source options => .ok { query := script source options }
  | .search text fields matchType fuzziness constantScore =>
    .ok { query := search collection text fields matchType fuzziness constantScore }
  | .startsWith column value =>
    .ok { query := .single "prefix" (.single (bareColumn collection column) (.str value)) }
  | .functionScore functionType params =>
    .ok { query := .single "function_score" (.single functionType (.obj params)) }

end

def clause (clause : Clause) : Except Error Json := do
  return (← shapeOf target collection clause.condition).finish clause.options

/-- A list of clauses as one tree; nothing for the empty list. -/
def clauseTree (list : List Clause) : Except Error (Option Json) := do
  return group (← clauses target collection list)

end Dsl

end SearchQuery
