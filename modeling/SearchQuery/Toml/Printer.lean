/-!
# Writing TOML strings

A string is written in the first of four forms that holds it without escapes other than that of a
tab: between double quotes, between apostrophes, and each of the two on several lines. A string that
none of them holds is written between double quotes with escapes.
-/

namespace SearchQuery

namespace Toml

def upperDigit (n : Nat) : Char := ((Nat.toDigits 16 n).headD '0').toUpper

def isControl (c : Char) : Bool := c.toNat < 32 || c.toNat = 127

/-- A character inside a string on one line, with its escape. -/
def escape (c : Char) : List Char :=
  if c = '\x08' then ['\\', 'b']
  else if c = '\t' then ['\\', 't']
  else if c = '\n' then ['\\', 'n']
  else if c = '\x0c' then ['\\', 'f']
  else if c = '\r' then ['\\', 'r']
  else if c = '"' then ['\\', '"']
  else if c = '\\' then ['\\', '\\']
  else if isControl c then
    ['\\', 'u', '0', '0', upperDigit (c.toNat / 16), upperDigit (c.toNat % 16)]
  else [c]

/-- The text of a string on several lines, with escapes. Of quotes side by side every third has
one; `run` of them have just been written without. -/
def escapeLong (run : Nat) : List Char → List Char
  | [] => []
  | c :: rest =>
    if c = '"' ∧ run < 2 then c :: escapeLong (run + 1) rest
    else if c = '\n' then c :: escapeLong 0 rest
    else escape c ++ escapeLong 0 rest

/-- How many times a character stands side by side at most; it stands `run` times right in front of
the text. -/
def longestRun (mark : Char) (run : Nat) : List Char → Nat
  | [] => run
  | c :: rest =>
    if c = mark then longestRun mark (run + 1) rest else max run (longestRun mark 0 rest)

/-- How a string is written. -/
inductive StringForm where
  | basic
  | literal
  | longBasic
  | longLiteral
deriving DecidableEq

def StringForm.of (text : List Char) : StringForm :=
  let isLong := text.contains '\n'
  let hasEscape := text.contains '\\'
  let needsEscape := text.any fun c => isControl c && c != '\t' && c != '\n'
  if needsEscape then if isLong then .longBasic else .basic
  else if !hasEscape ∧ !text.contains '"' ∧ !isLong then .basic
  else if !text.contains '\'' ∧ !isLong then .literal
  else if !hasEscape ∧ longestRun '"' 0 text ≤ 2 then .longBasic
  else if longestRun '\'' 0 text ≤ 2 then .longLiteral
  else if isLong then .longBasic
  else .basic

/-- What stands behind the opening quotes of a string on several lines. -/
def lineStart (text : List Char) : List Char := if text.contains '\n' then ['\n'] else []

def quoted (text : List Char) : List Char :=
  match StringForm.of text with
  | .basic => '"' :: text.flatMap escape ++ ['"']
  | .literal => '\'' :: text ++ ['\'']
  | .longBasic => ['"', '"', '"'] ++ lineStart text ++ escapeLong 0 text ++ ['"', '"', '"']
  | .longLiteral => ['\'', '\'', '\''] ++ lineStart text ++ text ++ ['\'', '\'', '\'']

def quote (text : String) : String := String.ofList (quoted text.toList)

end Toml

end SearchQuery
