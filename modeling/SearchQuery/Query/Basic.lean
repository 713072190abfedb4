import SearchQuery.Json.Basic
import SearchQuery.Query.Operator
import SearchQuery.Time.Timestamp
/-!
# Queries

A query is plain data: clauses in three contexts (scoring, filter and post-filter), aggregations,
sort keys and paging for one collection. Conditions and aggregations may hold queries of their own,
so the types are defined together.
-/

namespace SearchQuery

/-- A value that a clause compares with. Instants are kept apart from plain values, so that they
can be written in the date pattern of the target when the query is compiled. -/
inductive ClauseValue where
  | instant (time : Timestamp)
  | plain (value : Json)
deriving BEq

def ClauseValue.null : ClauseValue := .plain .null

def ClauseValue.isNull : ClauseValue → Bool
  | .plain .null => true
  | _ => false

/-- Options of a single clause. -/
structure ClauseOptions where
  boost : Option Binary64 := none
  /-- An object with settings, or any other value for the default settings. -/
  innerHits : Option Json := none
deriving BEq

def ClauseOptions.isEmpty (options : ClauseOptions) : Bool :=
  options.boost.isNone && options.innerHits.isNone

/-- A field that a full-text condition searches, optionally with a weight. -/
structure SearchField where
  name : String
  boost : Option Binary64 := none
deriving BEq

/-- What a sort key orders by. -/
inductive SortKind where
  /-- The value of the column. -/
  | value (missing : Option Json) (mode : Option String)
  /-- The distance of the column from a point. -/
  | distance (coordinates : Json) (unit : Option String) (distanceType : Option String)
deriving BEq

/-- One entry of the sort order. -/
structure SortKey where
  column : String
  direction : Direction := .ascending
  kind : SortKind := .value none none
deriving BEq

/-- Options of the whole request. -/
structure RequestOptions where
  routing : Option String := none
  parentId : Option String := none
  conflicts : Option Conflicts := none
  refresh : Option Refresh := none
  includeInnerHits : Bool := false
deriving BEq

mutual

/-- What a clause demands of a document. -/
inductive Condition where
  | compare (column : String) (operator : Operator) (value : ClauseValue) (negate : Bool)
  | isIn (column : String) (values : List ClauseValue)
  | isNotIn (column : String) (values : List ClauseValue)
  | between (column : String) (low high : ClauseValue) (negate : Bool)
  | isNull (column : String)
  | isNotNull (column : String)
  | date (column : String) (operator : Operator) (value : ClauseValue)
  | datePart (column : String) (part : DatePart) (operator : Operator) (value : Int)
  | geoDistance (column : String) (location : Json) (distance : String)
  | geoBounds (column : String) (bounds : Json)
  | nested (column : String) (query : Query) (negate : Bool)
  | group (query : Query)
  | not (query : Query)
  | related (relation : Relation) (documentType : String) (query : Query)
  | parentId (parentType : String) (id : ClauseValue)
  | script (source : String) (options : Object)
  | search (text : String) (fields : List SearchField) (matchType : Option String)
      (fuzziness : Option Json) (constantScore : Bool)
  | startsWith (column : String) (value : String)
  | functionScore (functionType : String) (params : Object)
deriving BEq

/-- A condition with its place in a clause list. -/
structure Clause where
  condition : Condition
  junction : Junction := .and
  options : ClauseOptions := {}
deriving BEq

/-- What an aggregation computes. Argument maps may hold anything; only the known arguments of the
kind reach a request. -/
inductive Aggregator where
  | terms (field : String) (options : Object)
  | dateHistogram (field : String) (options : Object)
  | cardinality (args : Object)
  | composite (args : Object)
  | dateRange (args : Object)
  | exists (field : String)
  | missing (field : String)
  | reverseNested
  | nested (path : String)
  | children (documentType : String)
  | filter (query : Query)
  | metric (metric : Metric) (field : String) (script : Option Json)
deriving BEq

/-- A named aggregation with the aggregations computed inside each of its buckets. -/
structure Aggregation where
  key : String
  aggregator : Aggregator
  children : List Aggregation := []
deriving BEq

/-- A query over one collection. -/
structure Query where
  collection : String := ""
  wheres : List Clause := []
  filters : List Clause := []
  postFilters : List Clause := []
  aggregations : List Aggregation := []
  orders : List SortKey := []
  columns : Option (List String) := none
  limit : Option Nat := none
  offset : Option Nat := none
  options : RequestOptions := {}
deriving BEq

end

instance : Inhabited Query := ⟨{}⟩

/-- The column that a condition is about, if it is about one. -/
def Condition.column? : Condition → Option String
  | .compare column .. | .isIn column .. | .isNotIn column .. | .between column ..
  | .isNull column | .isNotNull column | .date column .. | .datePart column ..
  | .geoDistance column .. | .geoBounds column .. | .nested column .. | .startsWith column .. =>
    some column
  | _ => none

def Query.isEmpty (query : Query) : Bool :=
  query.wheres.isEmpty && query.filters.isEmpty && query.postFilters.isEmpty

end SearchQuery
