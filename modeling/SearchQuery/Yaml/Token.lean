/-!
# YAML tokens

The pieces that a YAML text falls into. Blocks are marked by where they start and end, so that
indentation plays no further part; a key is marked in front of it even where nothing is written.
-/

namespace SearchQuery

namespace Yaml

/-- How a scalar is written. Folded blocks and texts between quotes need not be told apart. -/
inductive ScalarStyle where
  | plain
  | literal
  | other
deriving DecidableEq

/-- A token. -/
inductive Token where
  /-- The version of the notation. -/
  | version (major minor : Nat)
  /-- The front that a handle stands for in tags. -/
  | tagFront (handle front : String)
  | documentStart
  | documentEnd
  | blockSequenceStart
  | blockMappingStart
  | blockEnd
  | flowSequenceStart
  | flowSequenceEnd
  | flowMappingStart
  | flowMappingEnd
  | blockEntry
  | flowEntry
  | key
  | value
  | alias (name : String)
  | anchor (name : String)
  /-- A tag: the handle that stands for the front of it, and the rest. -/
  | tag (handle suffix : String)
  | scalar (style : ScalarStyle) (text : String)
deriving DecidableEq

/-- A place in a text. -/
structure Position where
  /-- How many bytes are in front of it. -/
  index : Nat := 0
  line : Nat := 0
  column : Nat := 0

/-- Whether a character ends a line. Carriage returns have been made line feeds before. -/
def isBreak (c : Char) : Bool := c = '\n' || c = '\u2028' || c = '\u2029'

def isSpace (c : Char) : Bool := c = ' ' || c = '\t'

/-- Whether a text is at its end, or at a blank or a line end. -/
def atGap : List Char → Bool
  | [] => true
  | c :: _ => isSpace c || isBreak c

def atLineEnd : List Char → Bool
  | [] => true
  | c :: _ => isBreak c

def Position.past (position : Position) (c : Char) : Position :=
  let index := position.index + c.utf8Size
  if isBreak c then { index, line := position.line + 1, column := 0 }
  else { position with index, column := position.column + 1 }

def atDocumentMark (position : Position) (text : List Char) : Bool :=
  position.column = 0 && match text with
    | '-' :: '-' :: '-' :: rest => atGap rest
    | '.' :: '.' :: '.' :: rest => atGap rest
    | _ => false

/-- Makes every end of a line that is not a separator of its own a line feed. -/
def unifyBreaks : List Char → List Char
  | [] => []
  | '\r' :: '\n' :: rest => '\n' :: unifyBreaks rest
  | '\r' :: rest => '\n' :: unifyBreaks rest
  | '\x85' :: rest => '\n' :: unifyBreaks rest
  | c :: rest => c :: unifyBreaks rest

def isAllowed (c : Char) : Bool :=
  c = '\t' || c = '\n' || c = '\r' || (32 ≤ c.toNat && c.toNat ≤ 126) || c.toNat = 0x85
    || (0xa0 ≤ c.toNat && c.toNat ≤ 0xfffd) || 0x10000 ≤ c.toNat

end Yaml

end SearchQuery
