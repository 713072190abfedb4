import SearchQuery.Json.Basic
import SearchQuery.Number.Shortest
/-!
# JSON text

The compact form has no blank at all; the indented form puts every item and member on a line of
its own, two blanks deeper than its container. Members are written in the order of the value.
-/

namespace SearchQuery

namespace Json

/-- Numbers keep a fraction or an exponent; notation is positional from `1e-5` up to, but not
including, `1e16`. -/
def numberLayout : DecimalLayout := ⟨some (-4, 16), true, true, "inf", "NaN"⟩

private def hexDigit (n : Nat) : Char := (Nat.toDigits 16 n).headD '0'

/-- A character inside a string. Only the quote, the backslash and controls are escaped. -/
def escapeChar (c : Char) : List Char :=
  if c = '"' then ['\\', '"']
  else if c = '\\' then ['\\', '\\']
  else if c = '\n' then ['\\', 'n']
  else if c = '\r' then ['\\', 'r']
  else if c = '\t' then ['\\', 't']
  else if c = '\x08' then ['\\', 'b']
  else if c = '\x0c' then ['\\', 'f']
  else if c.toNat < 32 then
    ['\\', 'u', '0', '0', hexDigit (c.toNat / 16), hexDigit (c.toNat % 16)]
  else [c]

def quote (text : String) : String :=
  "\"" ++ String.ofList (text.toList.flatMap escapeChar) ++ "\""

def numberText (x : Binary64) : String := if x.isFinite then numberLayout.text x else "null"

mutual

def compact : Json → String
  | .null => "null"
  | .bool value => if value then "true" else "false"
  | .int value => toString value
  | .float value => numberText value
  | .str value => quote value
  | .arr items => "[" ++ compactItems items ++ "]"
  | .obj entries => "\x7b" ++ compactEntries entries ++ "\x7d"

def compactItems : List Json → String
  | [] => ""
  | item :: [] => item.compact
  | item :: rest => item.compact ++ "," ++ compactItems rest

def compactEntries : List (String × Json) → String
  | [] => ""
  | (name, value) :: [] => quote name ++ ":" ++ value.compact
  | (name, value) :: rest => quote name ++ ":" ++ value.compact ++ "," ++ compactEntries rest

end

private def newline (depth : Nat) : String := "\n" ++ String.ofList (List.replicate (2 * depth) ' ')

mutual

/-- The text of a value that stands at the given depth, one item or member a line. -/
def indented (depth : Nat) : Json → String
  | .arr (item :: rest) => "[" ++ indentedItems (depth + 1) (item :: rest) ++ newline depth ++ "]"
  | .obj (entry :: rest) =>
    "\x7b" ++ indentedEntries (depth + 1) (entry :: rest) ++ newline depth ++ "\x7d"
  | .arr [] => "[]"
  | .obj [] => "\x7b\x7d"
  | .null => "null"
  | .bool value => if value then "true" else "false"
  | .int value => toString value
  | .float value => numberText value
  | .str value => quote value

def indentedItems (depth : Nat) : List Json → String
  | [] => ""
  | item :: [] => newline depth ++ item.indented depth
  | item :: rest => newline depth ++ item.indented depth ++ "," ++ indentedItems depth rest

def indentedEntries (depth : Nat) : List (String × Json) → String
  | [] => ""
  | (name, value) :: [] => newline depth ++ quote name ++ ": " ++ value.indented depth
  | (name, value) :: rest =>
    newline depth ++ quote name ++ ": " ++ value.indented depth ++ "," ++ indentedEntries depth rest

end

def pretty (value : Json) : String := value.indented 0

/-- A value as plain text: a string stands for itself, anything else for its compact form. -/
def plainText : Json → String
  | .str text => text
  | value => value.compact

end Json

end SearchQuery
