import SearchQuery.Query.Basic
import SearchQuery.Time.Pattern
/-!
# Compilation targets

What a compiled request depends on besides the query: the pattern that instants are written in, and
the suffix that turns a collection into the name of its index.
-/

namespace SearchQuery

/-- How queries are compiled. -/
structure Target where
  /-- The pattern that instants are written in. -/
  datePattern : String := "%+"
  /-- Follows the collection in the name of an index. -/
  indexSuffix : String := ""
deriving DecidableEq

namespace Target

def indexName (target : Target) (collection : String) : String :=
  collection ++ target.indexSuffix

/-- A clause value as it is sent: an instant as text, any other value unchanged. -/
def render (target : Target) : ClauseValue → Json
  | .plain value => value
  | .instant time => .str (time.format target.datePattern)

end Target

def afterFront? : List Char → List Char → Option (List Char)
  | [], text => some text
  | _ :: _, [] => none
  | c :: front, d :: text => if c = d then afterFront? front text else none

/-- A column name without the collection and the dot it may start with. -/
def bareColumn (collection column : String) : String :=
  if collection.isEmpty then column
  else match afterFront? (collection.toList ++ ['.']) column.toList with
    | some rest => String.ofList rest
    | none => column

end SearchQuery
