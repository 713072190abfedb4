import SearchQuery.Number.Numeral
import SearchQuery.Time.Date
import SearchQuery.Toml.Table
/-!
# Reading TOML

A document is read statement by statement. Each reader takes what it reads off the front of the
text, and gives what it read with the rest.
-/

namespace SearchQuery

namespace Toml

def isSpace (c : Char) : Bool := c = ' ' || c = '\t'

/-- Whether a character may stand in a comment or a string. -/
def isTextChar (c : Char) : Bool := c = '\t' || (32 ≤ c.toNat && c.toNat != 127)

def isBareChar (c : Char) : Bool := c.isAlphanum || c = '-' || c = '_'

def skipSpace (text : List Char) : List Char := text.dropWhile isSpace

/-- The text without blanks, line ends and comments at its start. -/
def skipFiller (inComment : Bool) : List Char → Option (List Char)
  | [] => some []
  | '\n' :: rest => skipFiller false rest
  | '\r' :: '\n' :: rest => skipFiller false rest
  | c :: rest =>
    if inComment then if isTextChar c then skipFiller true rest else none
    else if isSpace c then skipFiller false rest
    else if c = '#' then skipFiller true rest
    else some (c :: rest)

/-- The text behind the end of a line, which may have a comment in front of it. -/
def endLine (text : List Char) : Option (List Char) :=
  let rest := match skipSpace text with
    | '#' :: comment => comment.dropWhile isTextChar
    | other => other
  match rest with
  | [] => some []
  | '\n' :: rest => some rest
  | '\r' :: '\n' :: rest => some rest
  | _ => none

def unicodeChar? (digits : List Char) : Option Char := do
  let value ← digits.foldlM (fun sum c => do
    let digit ←
      if c.isDigit then some (c.toNat - '0'.toNat)
      else if 'a' ≤ c ∧ c ≤ 'f' then some (c.toNat - 'a'.toNat + 10)
      else if 'A' ≤ c ∧ c ≤ 'F' then some (c.toNat - 'A'.toNat + 10)
      else none
    return 16 * sum + digit) 0
  if h : value.isValidChar then some (Char.ofNatAux value h) else none

/-- The character that a letter behind a backslash stands for. -/
def escapedChar? : Char → Option Char
  | 'b' => some '\x08'
  | 't' => some '\t'
  | 'n' => some '\n'
  | 'f' => some '\x0c'
  | 'r' => some '\r'
  | '"' => some '"'
  | '\\' => some '\\'
  | _ => none

def addFront (c : Option Char) (read : Option (List Char × List Char)) :
    Option (List Char × List Char) := do
  let (text, rest) ← read
  return ((← c) :: text, rest)

/-- The rest of a string on one line, with escapes. -/
def basicText : List Char → Option (List Char × List Char)
  | '"' :: rest => some ([], rest)
  | '\\' :: 'u' :: a :: b :: c :: d :: rest =>
    addFront (unicodeChar? [a, b, c, d]) (basicText rest)
  | '\\' :: 'U' :: a :: b :: c :: d :: e :: f :: g :: h :: rest =>
    addFront (unicodeChar? [a, b, c, d, e, f, g, h]) (basicText rest)
  | '\\' :: c :: rest => addFront (escapedChar? c) (basicText rest)
  | c :: rest => if isTextChar c then addFront (some c) (basicText rest) else none
  | [] => none

/-- The rest of a string on several lines, with escapes. A backslash at the end of a line takes
away the blanks and line ends that follow; `skipping` tells that this goes on. -/
def longBasicText (skipping : Bool) : List Char → Option (List Char × List Char)
  | '"' :: '"' :: '"' :: '"' :: '"' :: rest => some (['"', '"'], rest)
  | '"' :: '"' :: '"' :: '"' :: rest => some (['"'], rest)
  | '"' :: '"' :: '"' :: rest => some ([], rest)
  | '\r' :: '\n' :: rest =>
    if skipping then longBasicText true rest else addFront (some '\n') (longBasicText false rest)
  | '\n' :: rest =>
    if skipping then longBasicText true rest else addFront (some '\n') (longBasicText false rest)
  | '\\' :: 'u' :: a :: b :: c :: d :: rest =>
    addFront (unicodeChar? [a, b, c, d]) (longBasicText false rest)
  | '\\' :: 'U' :: a :: b :: c :: d :: e :: f :: g :: h :: rest =>
    addFront (unicodeChar? [a, b, c, d, e, f, g, h]) (longBasicText false rest)
  | '\\' :: c :: rest =>
    if isSpace c ∨ c = '\n' ∨ c = '\r' then
      match skipSpace (c :: rest) with
      | '\n' :: _ => longBasicText true rest
      | '\r' :: '\n' :: _ => longBasicText true rest
      | _ => none
    else addFront (escapedChar? c) (longBasicText false rest)
  | c :: rest =>
    if skipping ∧ isSpace c then longBasicText true rest
    else if isTextChar c then addFront (some c) (longBasicText false rest)
    else none
  | [] => none

/-- The rest of a string on one line, without escapes. -/
def literalText : List Char → Option (List Char × List Char)
  | '\'' :: rest => some ([], rest)
  | c :: rest => if isTextChar c then addFront (some c) (literalText rest) else none
  | [] => none

/-- The rest of a string on several lines, without escapes. -/
def longLiteralText : List Char → Option (List Char × List Char)
  | '\'' :: '\'' :: '\'' :: '\'' :: '\'' :: rest => some (['\'', '\''], rest)
  | '\'' :: '\'' :: '\'' :: '\'' :: rest => some (['\''], rest)
  | '\'' :: '\'' :: '\'' :: rest => some ([], rest)
  | '\r' :: '\n' :: rest => addFront (some '\n') (longLiteralText rest)
  | '\n' :: rest => addFront (some '\n') (longLiteralText rest)
  | c :: rest => if isTextChar c then addFront (some c) (longLiteralText rest) else none
  | [] => none

def dropLineEnd : List Char → List Char
  | '\n' :: rest => rest
  | '\r' :: '\n' :: rest => rest
  | text => text

def readString : List Char → Option (List Char × List Char)
  | '"' :: '"' :: '"' :: rest => longBasicText false (dropLineEnd rest)
  | '"' :: rest => basicText rest
  | '\'' :: '\'' :: '\'' :: rest => longLiteralText (dropLineEnd rest)
  | '\'' :: rest => literalText rest
  | _ => none

def readKey (text : List Char) : Option (String × List Char) :=
  match text with
  | '"' :: rest => (basicText rest).map fun (key, rest) => (String.ofList key, rest)
  | '\'' :: rest => (literalText rest).map fun (key, rest) => (String.ofList key, rest)
  | _ =>
    let key := text.takeWhile isBareChar
    if key.isEmpty then none else some (String.ofList key, text.dropWhile isBareChar)

/-- How deep values and tables may be nested. -/
def depthLimit : Nat := 79

/-- Reads the parts of a dotted key with blanks around them. -/
def readParts : Nat → List Char → Option (List String × List Char)
  | 0, _ => none
  | fuel + 1, text => do
    let (key, rest) ← readKey (skipSpace text)
    match skipSpace rest with
    | '.' :: rest => do
      let (path, rest) ← readParts fuel rest
      return (key :: path, rest)
    | rest => return ([key], rest)

def readPath (text : List Char) : Option (List String × List Char) :=
  (readParts text.length text).filter fun (path, _) => path.length ≤ depthLimit

def digitGroups? (isDigit : Char → Bool) (text : List Char) : Option (List Char) :=
  let rec go (afterDigit : Bool) : List Char → Option (List Char)
    | [] => if afterDigit then some [] else none
    | c :: rest =>
      if isDigit c then (go true rest).map (c :: ·)
      else if c = '_' ∧ afterDigit then go false rest
      else none
  go false text

/-- The number that digits spell in a base. -/
def radixValue (base : Nat) (digits : List Char) : Nat :=
  digits.foldl (fun sum c =>
    let digit := if c.isDigit then c.toNat - '0'.toNat else c.toLower.toNat - 'a'.toNat + 10
    base * sum + digit) 0

/-- A whole number, if it fits sixty-four bits with its sign. -/
def wholeNumber? (value : Int) : Option Json :=
  if -(2 ^ 63) ≤ value ∧ value < 2 ^ 63 then some (.int value) else none

/-- Whether decimal digits have no zero in front. -/
def isPlainWhole (digits : List Char) : Bool := digits.length = 1 || digits.head? != some '0'

/-- A number in any notation. Digits above the greatest finite number are refused. -/
def number? (text : List Char) : Option Json :=
  match text with
  | '0' :: 'x' :: rest => do
    let isHex (c : Char) : Bool := c.isDigit || ('a' ≤ c && c ≤ 'f') || ('A' ≤ c && c ≤ 'F')
    wholeNumber? (radixValue 16 (← digitGroups? isHex rest))
  | '0' :: 'o' :: rest => do
    wholeNumber? (radixValue 8 (← digitGroups? (fun c => '0' ≤ c && c ≤ '7') rest))
  | '0' :: 'b' :: rest => do
    wholeNumber? (radixValue 2 (← digitGroups? (fun c => c = '0' || c = '1') rest))
  | _ => do
    let (sign, unsigned) := Numeral.signOf text
    let negative : Bool := sign = some '-'
    if unsigned = ['i', 'n', 'f'] then return .float (.infinity negative)
    if unsigned = ['n', 'a', 'n'] then return .float .nan
    let whole ← digitGroups? Char.isDigit (unsigned.takeWhile fun c => c.isDigit || c = '_')
    if !isPlainWhole whole then none
    match unsigned.dropWhile fun c => c.isDigit || c = '_' with
    | [] => wholeNumber? (if negative then -decimalValue whole else decimalValue whole)
    | behind =>
      let (fraction, behind) ← match behind with
        | '.' :: rest => do
          let digits ← digitGroups? Char.isDigit (rest.takeWhile fun c => c.isDigit || c = '_')
          pure (some digits, rest.dropWhile fun c => c.isDigit || c = '_')
        | _ => pure (none, behind)
      let exponent ← match behind with
        | [] => pure none
        | c :: rest => do
          if c != 'e' ∧ c != 'E' then none
          let (sign, digits) := Numeral.signOf rest
          pure (some (sign, ← digitGroups? Char.isDigit digits))
      let numeral : Numeral := { sign, whole, fraction, exponent }
      let value := numeral.value
      if value = .infinity false then none
      return .float value

def twoDigits? : List Char → Option (Nat × List Char)
  | a :: b :: rest => if a.isDigit ∧ b.isDigit then some (decimalValue [a, b], rest) else none
  | _ => none

def dateRest? (text : List Char) : Option (List Char) := do
  let year := text.take 4
  if year.length ≠ 4 ∨ !year.all Char.isDigit then none
  let '-' :: rest := text.drop 4 | none
  let (month, rest) ← twoDigits? rest
  let '-' :: rest := rest | none
  let (day, rest) ← twoDigits? rest
  if isDate (decimalValue year) month day then some rest else none

def timeRest? (text : List Char) : Option (List Char) := do
  let (hour, rest) ← twoDigits? text
  let ':' :: rest := rest | none
  let (minute, rest) ← twoDigits? rest
  let ':' :: rest := rest | none
  let (second, rest) ← twoDigits? rest
  if 23 < hour ∨ 59 < minute ∨ 60 < second then none
  match rest with
  | '.' :: digits =>
    if digits.head?.any Char.isDigit then some (digits.dropWhile Char.isDigit) else none
  | _ => some rest

/-- Whether a text is the offset of a date with a time, or empty. -/
def isOffset (text : List Char) : Bool :=
  match text with
  | [] | ['Z'] | ['z'] => true
  | sign :: rest =>
    (sign = '+' || sign = '-') && match twoDigits? rest with
      | some (hours, ':' :: rest) => match twoDigits? rest with
        | some (minutes, []) => hours < 24 && minutes < 60
        | _ => false
      | _ => false

/-- Whether a text is a date, a time, or a date with a time. -/
def isDatetime (text : List Char) : Bool :=
  match dateRest? text with
  | some [] => true
  | some (mark :: time) =>
    [' ', 'T', 't'].contains mark && match timeRest? time with
      | some rest => isOffset rest
      | none => false
  | none => match timeRest? text with
    | some [] => true
    | _ => false

def datetimeValue (text : List Char) : Json := .single "datetime" (.str (String.ofList text))

/-- Whether a character may stand in a word that is a value. -/
def isWordChar (c : Char) : Bool := isBareChar c || c = '+' || c = '.' || c = ':'

/-- Reads a value that is one word, or a date with a time behind a blank. -/
def readWord (text : List Char) : Option (Json × List Char) :=
  let word := text.takeWhile isWordChar
  let rest := text.dropWhile isWordChar
  let dated := match dateRest? word, rest with
    | some [], ' ' :: next =>
      let time := next.takeWhile isWordChar
      if (timeRest? time).isSome then some (word ++ ' ' :: time, next.dropWhile isWordChar)
      else none
    | _, _ => none
  let (word, rest) := dated.getD (word, rest)
  let value := match String.ofList word with
    | "true" => some (Json.bool true)
    | "false" => some (Json.bool false)
    | _ => if isDatetime word then some (datetimeValue word) else number? word
  value.map (·, rest)

mutual

def readValue (depth : Nat) : Nat → List Char → Option (Json × List Char)
  | 0, _ => none
  | fuel + 1, text =>
    match text with
    | '[' :: rest => do
      if depthLimit ≤ depth then none
      let (items, rest) ← readItems (depth + 1) fuel rest
      return (.arr items, rest)
    | '\x7b' :: rest => do
      if depthLimit ≤ depth then none
      match skipSpace rest with
      | '\x7d' :: rest => return (.obj [], rest)
      | rest =>
        let (pairs, rest) ← readPairs (depth + 1) fuel rest
        return (← inlineValue pairs, rest)
    | '"' :: _ | '\'' :: _ => do
      let (value, rest) ← readString text
      return (.str (String.ofList value), rest)
    | _ => readWord text

def readItems (depth : Nat) : Nat → List Char → Option (List Json × List Char)
  | 0, _ => none
  | fuel + 1, text => do
    match ← skipFiller false text with
    | ']' :: rest => return ([], rest)
    | text =>
      let (value, rest) ← readValue depth fuel text
      match ← skipFiller false rest with
      | ',' :: rest => do
        let (items, rest) ← readItems depth fuel rest
        return (value :: items, rest)
      | ']' :: rest => return ([value], rest)
      | _ => none

def readPairs (depth : Nat) : Nat → List Char → Option (List (List String × Json) × List Char)
  | 0, _ => none
  | fuel + 1, text => do
    let (path, rest) ← readPath text
    let '=' :: rest := rest | none
    let (value, rest) ← readValue depth fuel (skipSpace rest)
    match skipSpace rest with
    | ',' :: rest => do
      let (pairs, rest) ← readPairs depth fuel rest
      return ((path, value) :: pairs, rest)
    | '\x7d' :: rest => return ([(path, value)], rest)
    | _ => none

end

def readStatement (fuel : Nat) (text : List Char) : Option (Statement × List Char) :=
  match text with
  | '[' :: '[' :: rest => do
    let (path, rest) ← readPath rest
    let ']' :: ']' :: rest := rest | none
    return (.tables path, rest)
  | '[' :: rest => do
    let (path, rest) ← readPath rest
    let ']' :: rest := rest | none
    return (.table path, rest)
  | _ => do
    let (path, rest) ← readPath text
    let '=' :: rest := rest | none
    let (value, rest) ← readValue 0 fuel (skipSpace rest)
    return (.pair path value, rest)

/-- Reads the statements of a document, each at the end of its line. -/
def readStatements : Nat → List Char → Option (List Statement)
  | 0, _ => none
  | fuel + 1, text => do
    match ← skipFiller false text with
    | [] => return []
    | text =>
      let (statement, rest) ← readStatement (2 * text.length + 2) text
      let statements ← readStatements fuel (← endLine rest)
      return statement :: statements

/-- Reads a document. A byte order mark in front of it does not matter. -/
def parse (text : String) : Option Json := do
  let chars := match text.toList with
    | '\ufeff' :: rest => rest
    | chars => chars
  documentValue (← readStatements (chars.length + 1) chars)

end Toml

end SearchQuery
