import SearchQuery.Number.Power
import SearchQuery.Text.Blank
import SearchQuery.Time.Date
/-!
# Timestamps

An instant in UTC, down to the nanosecond. Second 60 stands for a leap second. Reading is lenient
about blanks, letter case and the form of the offset, but wants seconds and an offset; writing has
one form, in which a fraction has three, six or nine digits.
-/

namespace SearchQuery

/-- An instant, as the date and time of day that clocks in UTC show. -/
structure Timestamp where
  date : Date
  hour : Nat
  minute : Nat
  second : Nat
  nanosecond : Nat
  hour_lt : hour < 24
  minute_lt : minute < 60
  second_le : second ≤ 60
  nanosecond_lt : nanosecond < 1000000000
deriving DecidableEq

/-- The decimal digits of a number, filled up with zeros on the left. -/
def zeroPadded (width n : Nat) : String :=
  let digits := Nat.toDigits 10 n
  String.ofList (List.replicate (width - digits.length) '0' ++ digits)

namespace Timestamp

/-- The time on a date, if its parts are in range. -/
def ofParts? (date : Date) (hour minute second nanosecond : Nat) : Option Timestamp :=
  if h : hour < 24 ∧ minute < 60 ∧ second ≤ 60 ∧ nanosecond < 1000000000 then
    some ⟨date, hour, minute, second, nanosecond, h.1, h.2.1, h.2.2.1, h.2.2.2⟩
  else none

/-- The same instant when the parts given are those of a clock that is ahead of UTC by `offset`
minutes, less than a day. -/
def ofLocal? (date : Date) (hour minute second nanosecond : Nat) (offset : Int) :
    Option Timestamp := do
  let local_ ← ofParts? date hour minute second nanosecond
  let minutes : Int := local_.hour * 60 + local_.minute - offset
  let date ← if minutes < 0 then date.previous?
    else if 1440 ≤ minutes then date.next?
    else some date
  let minutes := (minutes % 1440).toNat
  ofParts? date (minutes / 60) (minutes % 60) second nanosecond

/-- Seconds since the start of 1970, leap seconds not counted. -/
def unixSeconds (t : Timestamp) : Int :=
  t.date.daysSinceEpoch * 86400 + (t.hour * 3600 + t.minute * 60 + min t.second 59 : Nat)

/-- The fraction of the second with its leading point, in as many groups of three digits as it
needs; nothing for a whole second. -/
def fractionText (t : Timestamp) : String :=
  if t.nanosecond = 0 then ""
  else if t.nanosecond % 1000000 = 0 then "." ++ zeroPadded 3 (t.nanosecond / 1000000)
  else if t.nanosecond % 1000 = 0 then "." ++ zeroPadded 6 (t.nanosecond / 1000)
  else "." ++ zeroPadded 9 t.nanosecond

/-- A year: four digits, or a sign and at least four digits outside the years 0 to 9999. -/
def yearText (year : Int) : String :=
  if 0 ≤ year ∧ year ≤ 9999 then zeroPadded 4 year.toNat
  else (if year < 0 then "-" else "+") ++ zeroPadded 4 year.natAbs

def textWithOffset (t : Timestamp) (offset : String) : String :=
  yearText t.date.year ++ "-" ++ zeroPadded 2 t.date.month ++ "-" ++ zeroPadded 2 t.date.day ++ "T"
    ++ zeroPadded 2 t.hour ++ ":" ++ zeroPadded 2 t.minute ++ ":" ++ zeroPadded 2 t.second
    ++ t.fractionText ++ offset

/-- The written form of a timestamp, with `Z` for the offset. -/
def text (t : Timestamp) : String := t.textWithOffset "Z"

/-- The longer written form, with `+00:00` for the offset. -/
def textNumericOffset (t : Timestamp) : String := t.textWithOffset "+00:00"

/-! ### Reading -/

def digitsValue (digits : List Char) : Nat :=
  digits.foldl (fun n c => n * 10 + (c.toNat - '0'.toNat)) 0

/-- One to `most` digits at the front of a text, as a number, and what follows them. -/
def readNumber (most : Nat) (text : List Char) : Option (Nat × List Char) :=
  let digits := (text.takeWhile Char.isDigit).take most
  if digits.isEmpty then none else some (digitsValue digits, text.drop digits.length)

/-- A number of at most two digits behind optional blanks. -/
def readTwoDigits (text : List Char) : Option (Nat × List Char) :=
  readNumber 2 (trimStart text)

/-- A year behind optional blanks: at most four digits, or a sign and any number of them. -/
def readYear (text : List Char) : Option (Int × List Char) :=
  match trimStart text with
  | '-' :: rest => (readNumber rest.length rest).map fun (n, after) => (-(n : Int), after)
  | '+' :: rest => (readNumber rest.length rest).map fun (n, after) => ((n : Int), after)
  | rest => (readNumber 4 rest).map fun (n, after) => ((n : Int), after)

def readMark (mark : Char) (text : List Char) : Option (List Char) :=
  match trimStart text with
  | c :: rest => if c = mark then some rest else none
  | [] => none

/-- An optional fraction of a second: nine digits count, further ones are passed over. -/
def readFraction : List Char → Option (Nat × List Char)
  | '.' :: rest =>
    let digits := rest.takeWhile Char.isDigit
    if digits.isEmpty then none
    else
      let nine := digits.take 9
      some (digitsValue nine * 10 ^ (9 - nine.length), rest.dropWhile Char.isDigit)
  | text => some (0, text)

/-- Hours and minutes of an offset behind its sign, as minutes, and what follows them. -/
def readHoursMinutes (text : List Char) : Option (Nat × List Char) :=
  match text with
  | h₁ :: h₂ :: rest =>
    match rest.dropWhile (fun c => c == ':' || isBlank c) with
    | m₁ :: m₂ :: after =>
      let hours := digitsValue [h₁, h₂]
      let minutes := digitsValue [m₁, m₂]
      if h₁.isDigit ∧ h₂.isDigit ∧ m₁.isDigit ∧ m₂.isDigit ∧ minutes < 60 then
        some (hours * 60 + minutes, after)
      else none
    | _ => none
  | _ => none

/-- An offset in minutes, and what follows it: `Z`, the letters `UTC`, or a signed time. -/
def readOffset : List Char → Option (Int × List Char)
  | 'Z' :: rest | 'z' :: rest => some (0, rest)
  | '+' :: rest => (readHoursMinutes rest).map fun (n, after) => ((n : Int), after)
  | '-' :: rest | '\u2212' :: rest =>
    (readHoursMinutes rest).map fun (n, after) => (-(n : Int), after)
  | u :: t :: c :: rest =>
    if u.toLower = 'u' ∧ t.toLower = 't' ∧ c.toLower = 'c' then some (0, rest) else none
  | _ => none

/-- Reads a timestamp. Blanks may stand around the numbers; date and time are separated by one
blank or a `T`. An offset of a day or more is refused. -/
def parse (text : String) : Option Timestamp := do
  let (year, rest) ← readYear text.toList
  let (month, rest) ← readTwoDigits (← readMark '-' rest)
  let (day, rest) ← readTwoDigits (← readMark '-' rest)
  let rest ← match rest with
    | 'T' :: rest | 't' :: rest | ' ' :: rest => some rest
    | _ => none
  let (hour, rest) ← readTwoDigits rest
  let (minute, rest) ← readTwoDigits (← readMark ':' rest)
  let (second, rest) ← readTwoDigits (← readMark ':' rest)
  let (nanosecond, rest) ← readFraction rest
  let (offset, rest) ← readOffset (trimStart rest)
  if !rest.isEmpty ∨ 1440 ≤ offset.natAbs then none
  let date ← Date.ofYmd? year month day
  ofLocal? date hour minute second nanosecond offset

end Timestamp

end SearchQuery
