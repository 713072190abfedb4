import SearchQuery.Json.Basic
/-!
# Union of trees

How clauses under AND accumulate in one tree: objects are merged name by name, arrays are joined,
and a value that meets another one of any other shape shares an array with it.
-/

namespace SearchQuery

namespace Json

mutual

/-- The union of two trees, the first one's values in front. -/
def union (left : Json) : Json → Json
  | .obj entries => match left with
    | .obj object => .obj (unionEntries object entries)
    | .arr items => .arr (items ++ [.obj entries])
    | value => .arr [value, .obj entries]
  | .arr items => match left with
    | .arr front => .arr (front ++ items)
    | value => .arr (value :: items)
  | value => match left with
    | .arr front => .arr (front ++ [value])
    | other => .arr [other, value]

/-- Adds entries to an object, each in union with the entry of its name. -/
def unionEntries (object : Object) : List (String × Json) → Object
  | [] => object
  | (name, value) :: rest =>
    let merged := match Object.get? object name with
      | some old => old.union value
      | none => value
    unionEntries (Object.insert object name merged) rest

end

end Json

end SearchQuery
