/-!
# Percent-encoding

A character that may not stand for itself in a part of a URL is written as its UTF-8 bytes, each
behind a percent sign as two hexadecimal digits. Which characters those are depends on the part.
-/

namespace SearchQuery

namespace Http

/-- A byte behind a percent sign, in two upper-case hexadecimal digits. -/
def percentByte (byte : UInt8) : List Char :=
  let digit (n : Nat) : Char := ((Nat.toDigits 16 n).headD '0').toUpper
  ['%', digit (byte.toNat / 16), digit (byte.toNat % 16)]

/-- Encodes every character that is `escaped`. -/
def percentEncode (escaped : Char → Bool) (text : List Char) : List Char :=
  text.flatMap fun c => if escaped c then (String.utf8EncodeChar c).flatMap percentByte else [c]

def hexValue? (c : Char) : Option Nat :=
  if c.isDigit then some (c.toNat - '0'.toNat)
  else if 'a' ≤ c ∧ c ≤ 'f' then some (c.toNat - 'a'.toNat + 10)
  else if 'A' ≤ c ∧ c ≤ 'F' then some (c.toNat - 'A'.toNat + 10)
  else none

/-- The bytes of a percent-encoded text; a percent sign without two digits stands for itself. -/
def percentDecode : List Char → List UInt8
  | [] => []
  | '%' :: high :: low :: rest =>
    match hexValue? high, hexValue? low with
    | some h, some l => UInt8.ofNat (16 * h + l) :: percentDecode rest
    | _, _ => String.utf8EncodeChar '%' ++ percentDecode (high :: low :: rest)
  | c :: rest => String.utf8EncodeChar c ++ percentDecode rest

/-- The characters that are encoded in every part: controls and all that is not ASCII. -/
def isControl (c : Char) : Bool := c.toNat < 32 || 127 ≤ c.toNat

def inFragment (c : Char) : Bool := isControl c || [' ', '"', '<', '>', '\x60'].contains c

/-- The characters that are encoded in a query; the apostrophe only with a special scheme. -/
def inQuery (special : Bool) (c : Char) : Bool :=
  isControl c || [' ', '"', '#', '<', '>'].contains c || (special && c = '\'')

def inPath (c : Char) : Bool := inFragment c || ['#', '?', '\x7b', '\x7d'].contains c

/-- The characters that are encoded in a name or password. -/
def inUserinfo (c : Char) : Bool :=
  inPath c || ['/', ':', ';', '=', '@', '[', '\\', ']', '^', '|'].contains c

/-- The characters that are encoded in one segment of a path, so that it stays one segment. -/
def inSegment (special : Bool) (c : Char) : Bool :=
  inPath c || ['/', '%'].contains c || (special && c = '\\')

/-- A character of a name or value in the encoding of forms. -/
def formChar (c : Char) : List Char :=
  if c.isAlphanum ∨ ['*', '-', '.', '_'].contains c then [c]
  else if c = ' ' then ['+']
  else (String.utf8EncodeChar c).flatMap percentByte

def formEncode (pairs : List (String × String)) : String :=
  let part (text : String) : String := String.ofList (text.toList.flatMap formChar)
  "&".intercalate (pairs.map fun (name, value) => part name ++ "=" ++ part value)

end Http

end SearchQuery
