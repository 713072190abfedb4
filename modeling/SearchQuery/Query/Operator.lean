import SearchQuery.Error
import SearchQuery.Text.Blank
/-!
# Words of the query language

The small enumerations of a query: operators, directions, options. Each has one written word, and
those that people type can be read from text.
-/

namespace SearchQuery

/-- How a clause combines with the clauses before it. -/
inductive Junction where
  | and
  | or
deriving DecidableEq, Inhabited

/-- The comparison of a basic or date condition. -/
inductive Operator where
  | eq
  | ne
  | lt
  | le
  | gt
  | ge
  | like
  | exists
deriving DecidableEq, Inhabited

/-- Which side of a join a relationship condition looks at. -/
inductive Relation where
  | parent
  | child
deriving DecidableEq, Inhabited

/-- The calendar component that a date-part condition compares. -/
inductive DatePart where
  | year
  | month
  | day
  | weekday
deriving DecidableEq, Inhabited

/-- The direction of a sort key. -/
inductive Direction where
  | ascending
  | descending
deriving DecidableEq, Inhabited

/-- What a delete-by-query does about version conflicts. -/
inductive Conflicts where
  | abort
  | proceed
deriving DecidableEq, Inhabited

/-- Whether a delete-by-query makes its changes visible at once. -/
inductive Refresh where
  | off
  | on
deriving DecidableEq, Inhabited

/-- A metric over the values of one field. -/
inductive Metric where
  | sum
  | avg
  | max
  | min
deriving DecidableEq, Inhabited

def Junction.word : Junction → String
  | .and => "and"
  | .or => "or"

def Junction.all : List Junction := [.and, .or]

namespace Operator

def word : Operator → String
  | .eq => "="
  | .ne => "!="
  | .lt => "<"
  | .le => "<="
  | .gt => ">"
  | .ge => ">="
  | .like => "like"
  | .exists => "exists"

def all : List Operator := [.eq, .ne, .lt, .le, .gt, .ge, .like, .exists]

/-- The key of the bound inside a range query, for the four order comparisons. -/
def rangeKey : Operator → Option String
  | .gt => some "gt"
  | .ge => some "gte"
  | .lt => some "lt"
  | .le => some "lte"
  | _ => none

/-- Reads an operator as typed: blanks around it and the case of letters do not matter, and there
are second spellings of equality and inequality. -/
def parse (text : String) : Except Error Operator :=
  match lowerAscii (trimmed text) with
  | "=" | "==" => .ok .eq
  | "!=" | "<>" => .ok .ne
  | "<" => .ok .lt
  | "<=" => .ok .le
  | ">" => .ok .gt
  | ">=" => .ok .ge
  | "like" => .ok .like
  | "exists" => .ok .exists
  | _ => .error (.invalidOperator text)

end Operator

def Relation.word : Relation → String
  | .parent => "parent"
  | .child => "child"

def Relation.all : List Relation := [.parent, .child]

def DatePart.word : DatePart → String
  | .year => "year"
  | .month => "month"
  | .day => "day"
  | .weekday => "weekday"

def DatePart.all : List DatePart := [.year, .month, .day, .weekday]

/-- The property of a date inside a script that holds the component. -/
def DatePart.scriptProperty : DatePart → String
  | .year => "year"
  | .month => "monthOfYear"
  | .day => "dayOfMonth"
  | .weekday => "dayOfWeek"

namespace Direction

def word : Direction → String
  | .ascending => "asc"
  | .descending => "desc"

def all : List Direction := [.ascending, .descending]

/-- Reads a direction as typed; the case of letters does not matter. -/
def parse (text : String) : Except Error Direction :=
  match lowerAscii text with
  | "asc" => .ok .ascending
  | "desc" => .ok .descending
  | _ => .error (.invalidOption "order direction" text ["asc", "desc"])

end Direction

namespace Conflicts

def word : Conflicts → String
  | .abort => "abort"
  | .proceed => "proceed"

def all : List Conflicts := [.abort, .proceed]

def parse (text : String) : Except Error Conflicts :=
  match text with
  | "abort" => .ok .abort
  | "proceed" => .ok .proceed
  | _ => .error (.invalidOption "conflict" text ["abort", "proceed"])

end Conflicts

namespace Refresh

def word : Refresh → String
  | .off => "false"
  | .on => "true"

def all : List Refresh := [.off, .on]

def ofBool (value : Bool) : Refresh := if value then .on else .off

def parse (text : String) : Except Error Refresh :=
  match text with
  | "false" => .ok .off
  | "true" => .ok .on
  | _ => .error (.invalidOption "refresh" text ["false", "true"])

end Refresh

def Metric.word : Metric → String
  | .sum => "sum"
  | .avg => "avg"
  | .max => "max"
  | .min => "min"

def Metric.all : List Metric := [.sum, .avg, .max, .min]

end SearchQuery
