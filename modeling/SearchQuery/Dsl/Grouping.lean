import SearchQuery.Dsl.Union
import SearchQuery.Query.Operator
/-!
# Grouping of clauses

A list of compiled clauses becomes one tree. Clauses under AND accumulate by union. The first OR
turns what has accumulated into the first alternative of a `should` list, and every later clause is
one more alternative. In a list of several clauses each AND clause is wrapped before it is merged,
so that merging only ever joins lists.
-/

namespace SearchQuery

namespace Dsl

def matchAll : Json := .single "match_all" (.obj [])

/-- A tree that demands all of the given ones. -/
def must (queries : List Json) : Json := .single "bool" (.single "must" (.arr queries))

/-- A tree that demands none of the given ones. -/
def mustNot (queries : List Json) : Json := .single "bool" (.single "must_not" (.arr queries))

/-- A tree that demands at least one of the given ones. -/
def should (queries : List Json) : Json := .single "bool" (.single "should" (.arr queries))

/-- What has been grouped so far. -/
inductive Grouping where
  /-- Only clauses under AND: their union, if there was any. -/
  | all (query : Option Json)
  /-- The alternatives since the first OR. -/
  | any (alternatives : List Json)

def Grouping.add : Grouping → Junction → Json → Grouping
  | .all none, .and, query => .all (some query)
  | .all (some old), .and, query => .all (some (old.union query))
  | .all none, .or, query => .any [query]
  | .all (some old), .or, query => .any [old, query]
  | .any alternatives, _, query => .any (alternatives ++ [query])

def Grouping.tree : Grouping → Option Json
  | .all query => query
  | .any alternatives => some (should alternatives)

/-- A clause as it is merged in a list of several: under AND it is wrapped. -/
def wrapped : Junction → Json → Json
  | .and, query => must [query]
  | .or, query => query

/-- The tree of a list of clauses; nothing for the empty list. -/
def group (clauses : List (Junction × Json)) : Option Json :=
  let merged := if clauses.length ≤ 1 then clauses
    else clauses.map fun clause => (clause.1, wrapped clause.1 clause.2)
  (merged.foldl (fun (grouping : Grouping) clause => grouping.add clause.1 clause.2)
    (.all none)).tree

/-- A scoring query together with a filter. A plain `bool` query without alternatives and without a
filter takes the filter into itself; any other query is wrapped, so that its alternatives still
count. -/
def attachFilter (query : Option Json) (filter : Json) : Json :=
  match query with
  | none => .single "bool" (.single "filter" filter)
  | some (.obj [("bool", .obj inner)]) =>
    if Object.has inner "should" ∨ Object.has inner "filter" then
      .single "bool" (.obj [("filter", filter), ("must", .arr [.obj [("bool", .obj inner)]])])
    else .single "bool" (.obj (Object.insert inner "filter" filter))
  | some query => .single "bool" (.obj [("filter", filter), ("must", .arr [query])])

end Dsl

end SearchQuery
