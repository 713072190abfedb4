import SearchQuery.Json.Basic
import SearchQuery.Number.Shortest
import SearchQuery.Yaml.Scalar
/-!
# Writing YAML

JSON values in block notation. Members are indented by two blanks, the items of an array stand at
the indentation of its key, and empty containers are written between brackets. A string is written
plainly where it reads back as that string; on several lines it is a literal block.
-/

namespace SearchQuery

namespace Yaml

/-- Numbers keep a fraction or an exponent; exponents have no plus sign. -/
def numberLayout : DecimalLayout := ⟨some (-4, 16), true, false, ".inf", ".nan"⟩

def isPrintable (c : Char) : Bool :=
  c = '\n' || (32 ≤ c.toNat && c.toNat ≤ 126)
    || (0xa0 ≤ c.toNat && c.toNat ≤ 0xfffd && c.toNat != 0xfeff) || 0x10000 ≤ c.toNat

def endsLine (c : Char) : Bool := ['\n', '\r', '\u0085', '\u2028', '\u2029'].contains c

/-- Whether a character counts as a gap between words; so does the end of a text. -/
def isGap (c : Option Char) : Bool :=
  match c with
  | some c => c = ' ' || c = '\t' || c = '\x00' || endsLine c
  | none => true

/-- Whether a character behind the first one has a meaning of its own. -/
def hasInnerIndicator (previous : Char) : List Char → Bool
  | [] => false
  | c :: rest =>
    (c = ':' && isGap rest.head?) || (c = '#' && isGap (some previous)) || hasInnerIndicator c rest

/-- Whether some character of a text has a meaning of its own. -/
def hasIndicator (text : List Char) : Bool :=
  match text with
  | [] => false
  | c :: rest =>
    ['#', ',', '[', ']', '\x7b', '\x7d', '&', '*', '!', '|', '>', '\'', '"', '%', '@',
        '\x60'].contains c
      || (['?', ':', '-'].contains c && isGap rest.head?)
      || text.take 3 = ['-', '-', '-'] || text.take 3 = ['.', '.', '.']
      || hasInnerIndicator c rest

/-- Whether somewhere a character with the first property stands right in front of one with the
second. -/
def hasPair (first second : Char → Bool) : List Char → Bool
  | a :: b :: rest => (first a && second b) || hasPair first second (b :: rest)
  | _ => false

def plainAllowed (text : List Char) : Bool :=
  !(text.head?.any (· = ' ') || text.getLast?.any (· = ' ') || text.any endsLine
    || !text.all isPrintable || hasIndicator text)

/-- Whether a text may be written between single quotes. -/
def singleAllowed (text : List Char) : Bool :=
  text.all isPrintable && !hasPair endsLine (· = ' ') text && !hasPair (· = ' ') endsLine text

def blockAllowed (text : List Char) : Bool :=
  !text.isEmpty && text.all isPrintable && !hasPair (· = ' ') endsLine text
    && !text.getLast?.any (· = ' ')

def blanks (count : Nat) : List Char := List.replicate count ' '

/-- The characters between single quotes. A separator of lines is followed by indentation. -/
def singleText (indent : Nat) (behindBreak : Bool) : List Char → List Char
  | [] => if behindBreak then blanks indent else []
  | c :: rest =>
    if endsLine c then c :: singleText indent true rest
    else
      let written := if c = '\'' then ['\'', '\''] else [c]
      (if behindBreak then blanks indent else []) ++ written ++ singleText indent false rest

/-- Hexadecimal digits in upper case, of the given number. -/
def hexText (width n : Nat) : List Char :=
  let digits := (Nat.toDigits 16 n).map Char.toUpper
  List.replicate (width - digits.length) '0' ++ digits

/-- The letter that stands for a character behind a backslash. -/
def escapeLetter? (c : Char) : Option Char :=
  match c.toNat with
  | 0 => some '0'
  | 7 => some 'a'
  | 8 => some 'b'
  | 9 => some 't'
  | 10 => some 'n'
  | 11 => some 'v'
  | 12 => some 'f'
  | 13 => some 'r'
  | 27 => some 'e'
  | 34 => some '"'
  | 92 => some '\\'
  | 0x85 => some 'N'
  | 0xa0 => some '_'
  | 0x2028 => some 'L'
  | 0x2029 => some 'P'
  | _ => none

def doubleChar (c : Char) : List Char :=
  if isPrintable c ∧ !endsLine c ∧ c ≠ '"' ∧ c ≠ '\\' then [c]
  else match escapeLetter? c with
    | some letter => ['\\', letter]
    | none =>
      if c.toNat ≤ 0xff then '\\' :: 'x' :: hexText 2 c.toNat
      else if c.toNat ≤ 0xffff then '\\' :: 'u' :: hexText 4 c.toNat
      else '\\' :: 'U' :: hexText 8 c.toNat

/-- The lines of a block, each that is not empty behind its indentation. -/
def blockText (indent : Nat) (atStart : Bool) : List Char → List Char
  | [] => []
  | c :: rest =>
    if endsLine c then c :: blockText indent true rest
    else (if atStart then blanks indent else []) ++ c :: blockText indent false rest

/-- The indicators of a block: its indentation if it begins with a gap, and how it ends. -/
def blockHints (text : List Char) : List Char :=
  let indentation := if text.head?.any (fun c => c = ' ' || endsLine c) then ['2'] else []
  let ending := match text.reverse with
    | last :: before =>
      if !endsLine last then ['-']
      else match before with
        | [] => ['+']
        | c :: _ => if endsLine c then ['+'] else []
    | [] => ['-']
  indentation ++ ending

/-- Whether the text of a plain scalar reads as a string. -/
def readsAsText (text : String) : Bool :=
  match resolve text with
  | .text => !isZeroPadded text.toList
  | _ => false

/-- A string inside a block with the given indentation. A key must not be empty without quotes. -/
def stringText (indent : Nat) (text : String) : List Char :=
  let chars := text.toList
  let double := '"' :: chars.flatMap doubleChar ++ ['"']
  let single :=
    if singleAllowed chars then '\'' :: singleText indent false chars ++ ['\''] else double
  if chars.contains '\n' then
    if blockAllowed chars then '|' :: blockHints chars ++ '\n' :: blockText indent true chars
    else double
  else if readsAsText text ∧ plainAllowed chars then chars
  else single

def scalarText (indent : Nat) : Json → List Char
  | .null => "null".toList
  | .bool value => (if value then "true" else "false").toList
  | .int value => (toString value).toList
  | .float value => (numberLayout.text value).toList
  | .str value => stringText indent value
  | .arr _ => ['[', ']']
  | .obj _ => ['\x7b', '\x7d']

def endedLine (text : List Char) : List Char :=
  if text.getLast?.any endsLine then text else text ++ ['\n']

/-- How long a key may be that is written without a mark. -/
def simpleKeyLimit : Nat := 128

def isSimpleKey (name : String) : Bool :=
  !name.toList.any endsLine && name.utf8ByteSize ≤ simpleKeyLimit

mutual

def afterKey (indent : Nat) : Json → List Char
  | .obj (entry :: rest) =>
    '\n' :: blanks (indent + 2) ++ entriesText (indent + 2) (entry :: rest)
  | .arr (item :: rest) => '\n' :: blanks indent ++ itemsText indent (item :: rest)
  | value => ' ' :: scalarText (indent + 2) value

/-- What follows the mark of an item, or of the value of a marked key, at the given indentation. -/
def afterMark (indent : Nat) : Json → List Char
  | .obj (entry :: rest) => ' ' :: entriesText (indent + 2) (entry :: rest)
  | .arr (item :: rest) => ' ' :: itemsText (indent + 2) (item :: rest)
  | value => ' ' :: scalarText (indent + 2) value

/-- Members at the given indentation, the first one on the line that has begun. -/
def entriesText (indent : Nat) : List (String × Json) → List Char
  | [] => []
  | (name, value) :: rest =>
    let key := stringText (indent + 2) name
    let entry := if isSimpleKey name then key ++ ':' :: afterKey indent value
      else endedLine ('?' :: ' ' :: key) ++ blanks indent ++ ':' :: afterMark indent value
    match rest with
    | [] => entry
    | _ => endedLine entry ++ blanks indent ++ entriesText indent rest

/-- Items at the given indentation, the first one on the line that has begun. -/
def itemsText (indent : Nat) : List Json → List Char
  | [] => []
  | value :: rest =>
    let item := '-' :: afterMark indent value
    match rest with
    | [] => item
    | _ => endedLine item ++ blanks indent ++ itemsText indent rest

end

def documentText (object : Object) : List Char :=
  endedLine (if object.isEmpty then ['\x7b', '\x7d'] else entriesText 0 object)

end Yaml

end SearchQuery
