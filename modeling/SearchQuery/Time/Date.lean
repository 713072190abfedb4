/-!
# Calendar dates

Dates of the proleptic Gregorian calendar within the years that timestamps may have, with the
numbers derived from them: the day of the year, the weekday, and the week in the three usual counts.
-/

namespace SearchQuery

def isLeapYear (year : Int) : Bool :=
  year % 4 = 0 ∧ (year % 100 ≠ 0 ∨ year % 400 = 0)

def daysInMonth (year : Int) (month : Nat) : Nat :=
  if month = 2 then (if isLeapYear year then 29 else 28)
  else if month = 4 ∨ month = 6 ∨ month = 9 ∨ month = 11 then 30
  else 31

/-- Whether year, month and day name a date that timestamps can have. -/
def isDate (year : Int) (month day : Nat) : Bool :=
  -262143 ≤ year ∧ year ≤ 262142 ∧ 1 ≤ month ∧ month ≤ 12 ∧ 1 ≤ day ∧ day ≤ daysInMonth year month

/-- A calendar date. -/
structure Date where
  year : Int
  month : Nat
  day : Nat
  isDate_eq : isDate year month day = true
deriving DecidableEq

namespace Date

/-- The date with the given year, month and day, if there is one. -/
def ofYmd? (year : Int) (month day : Nat) : Option Date :=
  if h : isDate year month day = true then some ⟨year, month, day, h⟩ else none

def next? (d : Date) : Option Date :=
  (ofYmd? d.year d.month (d.day + 1)).orElse fun _ =>
  (ofYmd? d.year (d.month + 1) 1).orElse fun _ =>
  ofYmd? (d.year + 1) 1 1

def previous? (d : Date) : Option Date :=
  (ofYmd? d.year d.month (d.day - 1)).orElse fun _ =>
  (ofYmd? d.year (d.month - 1) (daysInMonth d.year (d.month - 1))).orElse fun _ =>
  ofYmd? (d.year - 1) 12 31

/-- The number of the day within its year, from one. -/
def dayOfYear (d : Date) : Nat :=
  ((List.range d.month).drop 1).foldl (fun days month => days + daysInMonth d.year month) d.day

/-- The number of days since the first of January 1970. -/
def daysSinceEpoch (d : Date) : Int :=
  let before := d.year - 1
  before * 365 + before / 4 - before / 100 + before / 400 + d.dayOfYear - 719163

/-- The weekday, counted from zero for Monday. -/
def weekday (d : Date) : Nat := ((d.daysSinceEpoch + 3) % 7).toNat

/-- The weekday, counted from zero for Sunday. -/
def weekdayFromSunday (d : Date) : Nat := (d.weekday + 1) % 7

/-- The week of the year when weeks start on Sunday and days before the first one are in week 0. -/
def weekFromSunday (d : Date) : Nat := (d.dayOfYear + 6 - d.weekdayFromSunday) / 7

/-- The week of the year when weeks start on Monday and days before the first one are in week 0. -/
def weekFromMonday (d : Date) : Nat := (d.dayOfYear + 6 - d.weekday) / 7

def daysInYear (year : Int) : Nat := if isLeapYear year then 366 else 365

/-- The weekday of the first of January of a year, counted from zero for Monday. -/
private def firstWeekday (year : Int) : Nat :=
  let before := year - 1
  ((before * 365 + before / 4 - before / 100 + before / 400) % 7).toNat

/-- The number of weeks of a week-numbering year: 53 when it has 53 Thursdays. -/
private def weeksInYear (year : Int) : Nat :=
  let first := firstWeekday year
  if first = 3 ∨ (first = 2 ∧ isLeapYear year) then 53 else 52

/-- The week-numbering year and the week: weeks start on Monday and belong to the year that holds
their Thursday. -/
def isoWeek (d : Date) : Int × Nat :=
  let week := (d.dayOfYear + 9 - d.weekday) / 7
  if week < 1 then (d.year - 1, weeksInYear (d.year - 1))
  else if weeksInYear d.year < week then (d.year + 1, 1)
  else (d.year, week)

end Date

end SearchQuery
