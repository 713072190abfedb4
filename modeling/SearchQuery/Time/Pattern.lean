import SearchQuery.Time.Timestamp
/-!
# Date patterns

A pattern is text in which a percent sign starts a field of the timestamp. `Pattern.parse` cuts a
pattern into items and refuses an unknown field; `Pattern.format` writes a timestamp by a pattern.
-/

namespace SearchQuery

namespace Pattern

/-- How a number is filled up to its width. -/
inductive Padding where
  | none
  | zeros
  | blanks
deriving DecidableEq

/-- A numeric field of a timestamp. -/
inductive NumericField where
  | year
  | century
  | yearOfCentury
  | isoYear
  | isoYearOfCentury
  | quarter
  | month
  | day
  | weekFromSunday
  | weekFromMonday
  | isoWeek
  | weekdayFromSunday
  | weekdayFromMonday
  | dayOfYear
  | hour
  | hour12
  | minute
  | second
  | nanosecond
  | unixSeconds
deriving DecidableEq

/-- A part of a pattern. -/
inductive Item where
  | literal (text : String)
  | numeric (field : NumericField) (padding : Padding)
  | weekdayName (short : Bool)
  | monthName (short : Bool)
  | halfDay (upper : Bool)
  /-- The fraction of the second: as long as needed, or of a fixed number of digits. -/
  | fraction (places : Option Nat) (point : Bool)
  | zoneName
  /-- The offset of UTC, a text of zeros. -/
  | offset (text : String)
  /-- The whole timestamp in its written form. -/
  | full

/-- A numeric field filled up with zeros. -/
private def zeros (field : NumericField) : Item := .numeric field .zeros

/-- The hour, minute and second with colons between them. -/
private def clock : List Item :=
  [zeros .hour, .literal ":", zeros .minute, .literal ":", zeros .second]

/-- Month, day and two digits of the year with slashes between them. -/
private def slashDate : List Item :=
  [zeros .month, .literal "/", zeros .day, .literal "/", zeros .yearOfCentury]

/-- The items that one letter behind a percent sign stands for. -/
private def letterItems : Char → Option (List Item)
  | 'A' => some [.weekdayName false]
  | 'B' => some [.monthName false]
  | 'C' => some [zeros .century]
  | 'D' => some slashDate
  | 'F' => some [zeros .year, .literal "-", zeros .month, .literal "-", zeros .day]
  | 'G' => some [zeros .isoYear]
  | 'H' => some [zeros .hour]
  | 'I' => some [zeros .hour12]
  | 'M' => some [zeros .minute]
  | 'P' => some [.halfDay false]
  | 'R' => some [zeros .hour, .literal ":", zeros .minute]
  | 'S' => some [zeros .second]
  | 'T' => some clock
  | 'U' => some [zeros .weekFromSunday]
  | 'V' => some [zeros .isoWeek]
  | 'W' => some [zeros .weekFromMonday]
  | 'X' => some clock
  | 'Y' => some [zeros .year]
  | 'Z' => some [.zoneName]
  | 'a' => some [.weekdayName true]
  | 'b' => some [.monthName true]
  | 'c' => some ([.weekdayName true, .literal " ", .monthName true, .literal " ",
      .numeric .day .blanks, .literal " "] ++ clock ++ [.literal " ", zeros .year])
  | 'd' => some [zeros .day]
  | 'e' => some [.numeric .day .blanks]
  | 'f' => some [zeros .nanosecond]
  | 'g' => some [zeros .isoYearOfCentury]
  | 'h' => some [.monthName true]
  | 'j' => some [zeros .dayOfYear]
  | 'k' => some [.numeric .hour .blanks]
  | 'l' => some [.numeric .hour12 .blanks]
  | 'm' => some [zeros .month]
  | 'n' => some [.literal "\n"]
  | 'p' => some [.halfDay true]
  | 'q' => some [.numeric .quarter .none]
  | 'r' => some ([zeros .hour12, .literal ":", zeros .minute, .literal ":", zeros .second,
      .literal " ", .halfDay true])
  | 's' => some [.numeric .unixSeconds .none]
  | 't' => some [.literal "\t"]
  | 'u' => some [.numeric .weekdayFromMonday .none]
  | 'v' => some [.numeric .day .blanks, .literal "-", .monthName true, .literal "-", zeros .year]
  | 'w' => some [.numeric .weekdayFromSunday .none]
  | 'x' => some slashDate
  | 'y' => some [zeros .yearOfCentury]
  | 'z' => some [.offset "+0000"]
  | '+' => some [.full]
  | '%' => some [.literal "%"]
  | _ => none

/-- The items behind a percent sign and what follows them. -/
private def fieldItems : List Char → Option (List Item × List Char)
  | ':' :: ':' :: ':' :: 'z' :: rest => some ([.offset "+00"], rest)
  | ':' :: ':' :: 'z' :: rest => some ([.offset "+00:00:00"], rest)
  | ':' :: 'z' :: rest => some ([.offset "+00:00"], rest)
  | '.' :: '3' :: 'f' :: rest => some ([.fraction (some 3) true], rest)
  | '.' :: '6' :: 'f' :: rest => some ([.fraction (some 6) true], rest)
  | '.' :: '9' :: 'f' :: rest => some ([.fraction (some 9) true], rest)
  | '.' :: 'f' :: rest => some ([.fraction none true], rest)
  | '3' :: 'f' :: rest => some ([.fraction (some 3) false], rest)
  | '6' :: 'f' :: rest => some ([.fraction (some 6) false], rest)
  | '9' :: 'f' :: rest => some ([.fraction (some 9) false], rest)
  | c :: rest => (letterItems c).map (·, rest)
  | [] => none

/-- The items behind a percent sign when the padding is given: only a single number takes one. -/
private def paddedItems (padding : Padding) (text : List Char) : Option (List Item × List Char) :=
  match fieldItems text with
  | some ([.numeric field _], rest) => some ([.numeric field padding], rest)
  | _ => none

/-- Cuts a pattern into items; nothing when a field of it is unknown. -/
def parse (text : List Char) : Option (List Item) :=
  match text with
  | [] => some []
  | '%' :: rest =>
    let read := match rest with
      | '-' :: rest => paddedItems .none rest
      | '0' :: rest => paddedItems .zeros rest
      | '_' :: rest => paddedItems .blanks rest
      | rest => fieldItems rest
    match read with
    | none => none
    | some (items, after) =>
      if after.length ≤ rest.length then (parse after).map (items ++ ·) else none
  | c :: rest => (parse rest).map (.literal (String.ofList [c]) :: ·)
termination_by text.length

/-! ### Writing -/

/-- The names of the weekdays, from Monday. -/
def weekdayNames : List String :=
  ["Monday", "Tuesday", "Wednesday", "Thursday", "Friday", "Saturday", "Sunday"]

def monthNames : List String :=
  ["January", "February", "March", "April", "May", "June", "July", "August", "September",
    "October", "November", "December"]

/-- A two-digit number kept in eight bits; tens beyond nine become the characters behind `9`. -/
private def twoDigits (value : Int) (padding : Padding) : String :=
  let byte := (value % 256).toNat
  let ones := String.ofList [Char.ofNat ('0'.toNat + byte % 10)]
  match byte / 10, padding with
  | 0, .none => ones
  | 0, .blanks => " " ++ ones
  | tens, _ => String.ofList [Char.ofNat ('0'.toNat + tens)] ++ ones

/-- A number of at least `width` characters, a sign in front of the zeros that fill it up. -/
private def padded (width : Nat) (signed : Bool) (value : Int) (padding : Padding) : String :=
  let sign := if value < 0 then "-" else if signed then "+" else ""
  let digits := toString value.natAbs
  let missing := width - sign.length - digits.length
  match padding with
  | .none => sign ++ digits
  | .zeros => sign ++ String.ofList (List.replicate missing '0') ++ digits
  | .blanks => String.ofList (List.replicate missing ' ') ++ sign ++ digits

/-- A year: four characters, or five with a sign outside the years 0 to 9999. -/
private def paddedYear (year : Int) (padding : Padding) : String :=
  if 0 ≤ year ∧ year ≤ 9999 then padded 4 false year padding else padded 5 true year padding

private def hour12 (hour : Nat) : Nat := if hour % 12 = 0 then 12 else hour % 12

private def numericText (t : Timestamp) (padding : Padding) : NumericField → String
  | .year => paddedYear t.date.year padding
  | .century => twoDigits (t.date.year / 100) padding
  | .yearOfCentury => twoDigits (t.date.year % 100) padding
  | .isoYear => paddedYear t.date.isoWeek.1 padding
  | .isoYearOfCentury => twoDigits (t.date.isoWeek.1 % 100) padding
  | .quarter => toString ((t.date.month + 2) / 3)
  | .month => twoDigits t.date.month padding
  | .day => twoDigits t.date.day padding
  | .weekFromSunday => twoDigits t.date.weekFromSunday padding
  | .weekFromMonday => twoDigits t.date.weekFromMonday padding
  | .isoWeek => twoDigits t.date.isoWeek.2 padding
  | .weekdayFromSunday => toString t.date.weekdayFromSunday
  | .weekdayFromMonday => toString (t.date.weekday + 1)
  | .dayOfYear => padded 3 false t.date.dayOfYear padding
  | .hour => twoDigits t.hour padding
  | .hour12 => twoDigits (hour12 t.hour) padding
  | .minute => twoDigits t.minute padding
  | .second => twoDigits t.second padding
  | .nanosecond => padded 9 false t.nanosecond padding
  | .unixSeconds => padded 9 false t.unixSeconds padding

/-- A name, or its first three letters. -/
private def named (names : List String) (index : Nat) (short : Bool) : String :=
  let name := names.getD index ""
  if short then String.ofList (name.toList.take 3) else name

def itemText (t : Timestamp) : Item → String
  | .literal text => text
  | .numeric field padding => numericText t padding field
  | .weekdayName short => named weekdayNames t.date.weekday short
  | .monthName short => named monthNames (t.date.month - 1) short
  | .halfDay upper =>
    if t.hour < 12 then (if upper then "AM" else "am") else (if upper then "PM" else "pm")
  | .fraction none _ => t.fractionText
  | .fraction (some places) point =>
    (if point then "." else "") ++ zeroPadded places (t.nanosecond / 10 ^ (9 - places))
  | .zoneName => "UTC"
  | .offset text => text
  | .full => t.textNumericOffset

/-- A timestamp in the form of a pattern; nothing when the pattern is refused. -/
def format? (pattern : String) (t : Timestamp) : Option String :=
  (parse pattern.toList).map fun items => String.join (items.map (itemText t))

end Pattern

/-- A timestamp in the form of a pattern, or in its longer written form when the pattern is
refused. -/
def Timestamp.format (pattern : String) (t : Timestamp) : String :=
  (Pattern.format? pattern t).getD t.textNumericOffset

end SearchQuery
