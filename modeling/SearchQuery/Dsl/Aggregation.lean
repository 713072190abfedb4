import SearchQuery.Dsl.Clause
import SearchQuery.Query.Decode
/-!
# Compiled aggregations

A list of aggregations becomes one object, keyed by the aggregations' names; of two siblings with
one name the later is kept. An argument reaches the request only if the aggregator knows it.
-/

namespace SearchQuery

namespace Dsl

def termsArguments : List String :=
  ["collect_mode", "exclude", "execution_hint", "include", "min_doc_count", "missing", "order",
    "script", "show_term_doc_count_error", "size"]

def dateHistogramArguments : List String :=
  ["interval", "calendar_interval", "fixed_interval", "min_doc_count", "extended_bounds", "format",
    "time_zone"]

def cardinalityArguments : List String := ["field", "precision_threshold", "missing", "script"]

def compositeArguments : List String := ["sources", "size", "after"]

def dateRangeArguments : List String :=
  ["field", "format", "ranges", "time_zone", "missing", "keyed"]

def allowed (known : List String) (arguments : Object) : Object :=
  arguments.filter fun entry => known.contains entry.1

/-- One bound of a histogram, as a clause value would be sent; null when it is not given. -/
def renderBound (target : Target) : Option Json → Json
  | some bound => target.render (.ofJson bound)
  | none => .null

/-- The arguments of a histogram with its bounds, given as a pair or an object, made an object. -/
def withBounds (target : Target) (arguments : Object) : Object :=
  match Object.get? arguments "extended_bounds" with
  | some (.arr bounds) => Object.insert arguments "extended_bounds" (.obj
      [("max", renderBound target bounds[1]?), ("min", renderBound target bounds[0]?)])
  | some (.obj bounds) => Object.insert arguments "extended_bounds" (.obj
      [("max", renderBound target (Object.get? bounds "max")),
        ("min", renderBound target (Object.get? bounds "min"))])
  | _ => arguments

variable (target : Target) (collection : String)

/-- What an aggregator computes, under the name of its kind. -/
def aggregator : Aggregator → Except Error Object
  | .terms field options =>
    let arguments := allowed termsArguments options
    .ok [("terms", .obj (Object.insert arguments "field" (.str (bareColumn collection field))))]
  | .dateHistogram field options =>
    let arguments := Object.insert (allowed dateHistogramArguments options) "field"
      (.str (bareColumn collection field))
    .ok [("date_histogram", .obj (withBounds target arguments))]
  | .cardinality args => .ok [("cardinality", .obj (allowed cardinalityArguments args))]
  | .composite args => .ok [("composite", .obj (allowed compositeArguments args))]
  | .dateRange args => .ok [("date_range", .obj (allowed dateRangeArguments args))]
  | .exists field => .ok [("exists", .single "field" (.str (bareColumn collection field)))]
  | .missing field => .ok [("missing", .single "field" (.str (bareColumn collection field)))]
  | .reverseNested => .ok [("reverse_nested", .obj [])]
  | .nested path => .ok [("nested", .single "path" (.str path))]
  | .children documentType => .ok [("children", .single "type" (.str documentType))]
  | .filter query => do
    return [("filter", (← contexts target collection query).joined)]
  | .metric metric field script =>
    .ok [(metric.word, match script with
      | some script => .single "script" script
      | none => .single "field" (.str (bareColumn collection field)))]

mutual

/-- The object of a list of aggregations, on top of the entries in `done`. -/
def aggregationsOnto (done : Object) : List Aggregation → Except Error Object
  | [] => .ok done
  | aggregation :: rest => do
    let (key, compiled) ← aggregationEntry aggregation
    aggregationsOnto (Object.insert done key compiled) rest

/-- The key of an aggregation and what it compiles to, its children inside. -/
def aggregationEntry : Aggregation → Except Error (String × Json)
  | { key, aggregator := kind, children } => do
    let compiled ← aggregator target collection kind
    if children.isEmpty then return (key, .obj compiled)
    let inner ← aggregationsOnto [] children
    return (key, .obj (Object.insert compiled "aggregations" (.obj inner)))

end

def aggregations (list : List Aggregation) : Except Error Object :=
  aggregationsOnto target collection [] list

end Dsl

end SearchQuery
