import SearchQuery.Yaml.Token
/-!
# The text of YAML scalars

How the four kinds of scalars are read: plain text, text between quotes of either kind, and blocks.
In all but blocks a single line end reads as a blank, and of several line ends the first is dropped.
-/

namespace SearchQuery

namespace Yaml

/-- Blanks and line ends between the words of a scalar, the last ones in front. -/
inductive Gap where
  | none
  | blanks (back : List Char)
  /-- A first line end, missing where it was escaped, and the further ones. -/
  | broken (first : Option Char) (back : List Char)

namespace Gap

/-- Adds a blank, which only counts within a line. -/
def addBlank (c : Char) : Gap → Gap
  | none => .blanks [c]
  | .blanks back => .blanks (c :: back)
  | .broken first back => .broken first back

def addBreak (c : Char) : Gap → Gap
  | .broken first back => .broken first (c :: back)
  | _ => .broken (some c) []

def isBroken : Gap → Bool
  | .broken .. => true
  | _ => false

def isNone : Gap → Bool
  | none => true
  | _ => false

/-- What a gap reads as, the last character in front. -/
def foldedBack : Gap → List Char
  | none => []
  | .blanks back => back
  | .broken (some '\n') [] => [' ']
  | .broken (some '\n') back => back
  | .broken (some c) back => back ++ [c]
  | .broken Option.none back => back

end Gap

/-- The text of a scalar, and where it ends. -/
structure Scanned where
  text : List Char
  position : Position
  rest : List Char
  /-- Whether the text goes over the end of its line, up to the next word. -/
  overLine : Bool := false

/-- Whether a character ends a plain scalar inside brackets. -/
def isFlowEnd (c : Char) : Bool := [',', '[', ']', '\x7b', '\x7d'].contains c

/-- Reads a plain scalar. `indent` is the indentation of the block around it. -/
def scanPlain (inFlow : Bool) (indent : Int) (gap : Gap) (back : List Char) (position : Position) :
    List Char → Option Scanned
  | [] => some { text := back.reverse, position, rest := [], overLine := gap.isBroken }
  | c :: rest =>
    if isBreak c then scanPlain inFlow indent (gap.addBreak c) back (position.past c) rest
    else if isSpace c then
      if gap.isBroken ∧ c = '\t' ∧ position.column ≤ indent then none
      else scanPlain inFlow indent (gap.addBlank c) back (position.past c) rest
    else
      let stop : Scanned :=
        { text := back.reverse, position, rest := c :: rest, overLine := gap.isBroken }
      if !gap.isNone ∧ ((!inFlow ∧ position.column ≤ indent)
          ∨ atDocumentMark position (c :: rest) ∨ c = '#') then some stop
      else if inFlow ∧ c = ':' ∧ rest.head?.any (fun next => next = '?' || isFlowEnd next) then
        none
      else if (c = ':' ∧ atGap rest) ∨ (inFlow ∧ isFlowEnd c) then some stop
      else scanPlain inFlow indent .none (c :: gap.foldedBack ++ back) (position.past c) rest

def scanSingle (gap : Gap) (back : List Char) (position : Position) : List Char → Option Scanned
  | [] => none
  | '\'' :: '\'' :: rest =>
    scanSingle .none ('\'' :: gap.foldedBack ++ back) ((position.past '\'').past '\'') rest
  | '\'' :: rest =>
    some { text := (gap.foldedBack ++ back).reverse, position := position.past '\'', rest }
  | c :: rest =>
    if atDocumentMark position (c :: rest) then none
    else if isBreak c then scanSingle (gap.addBreak c) back (position.past c) rest
    else if isSpace c then scanSingle (gap.addBlank c) back (position.past c) rest
    else scanSingle .none (c :: gap.foldedBack ++ back) (position.past c) rest

/-- The character that a letter behind a backslash stands for. -/
def escaped? : Char → Option Char
  | '0' => some '\x00'
  | 'a' => some '\x07'
  | 'b' => some '\x08'
  | 't' => some '\t'
  | '\t' => some '\t'
  | 'n' => some '\n'
  | 'v' => some '\x0b'
  | 'f' => some '\x0c'
  | 'r' => some '\r'
  | 'e' => some '\x1b'
  | ' ' => some ' '
  | '"' => some '"'
  | '/' => some '/'
  | '\\' => some '\\'
  | 'N' => some '\u0085'
  | '_' => some '\u00a0'
  | 'L' => some '\u2028'
  | 'P' => some '\u2029'
  | _ => none

def hexDigit? (c : Char) : Option Nat :=
  if c.isDigit then some (c.toNat - '0'.toNat)
  else if 'a' ≤ c ∧ c ≤ 'f' then some (c.toNat - 'a'.toNat + 10)
  else if 'A' ≤ c ∧ c ≤ 'F' then some (c.toNat - 'A'.toNat + 10)
  else none

def charOfHex? (digits : List Char) : Option Char := do
  let value ← digits.foldlM (fun sum c => (hexDigit? c).map (16 * sum + ·)) 0
  if h : value.isValidChar then some (Char.ofNatAux value h) else none

/-- The place behind so many ASCII characters of one line. -/
def Position.along (position : Position) (count : Nat) : Position :=
  { position with index := position.index + count, column := position.column + count }

def scanDouble (gap : Gap) (back : List Char) (position : Position) : List Char → Option Scanned
  | [] => none
  | '"' :: rest =>
    some { text := (gap.foldedBack ++ back).reverse, position := position.past '"', rest }
  | '\\' :: 'x' :: a :: b :: rest =>
    match charOfHex? [a, b] with
    | some c => scanDouble .none (c :: gap.foldedBack ++ back) (position.along 4) rest
    | none => none
  | '\\' :: 'u' :: a :: b :: c :: d :: rest =>
    match charOfHex? [a, b, c, d] with
    | some c => scanDouble .none (c :: gap.foldedBack ++ back) (position.along 6) rest
    | none => none
  | '\\' :: 'U' :: a :: b :: c :: d :: e :: f :: g :: h :: rest =>
    match charOfHex? [a, b, c, d, e, f, g, h] with
    | some c => scanDouble .none (c :: gap.foldedBack ++ back) (position.along 10) rest
    | none => none
  | '\\' :: c :: rest =>
    if isBreak c then
      scanDouble (.broken none []) (gap.foldedBack ++ back) ((position.past '\\').past c) rest
    else match escaped? c with
      | some escaped => scanDouble .none (escaped :: gap.foldedBack ++ back) (position.along 2) rest
      | none => none
  | c :: rest =>
    if atDocumentMark position (c :: rest) then none
    else if isBreak c then scanDouble (gap.addBreak c) back (position.past c) rest
    else if isSpace c then scanDouble (gap.addBlank c) back (position.past c) rest
    else scanDouble .none (c :: gap.foldedBack ++ back) (position.past c) rest

/-- How the line ends at the end of a block are treated. -/
inductive Chomping where
  | strip
  | clip
  | keep
deriving DecidableEq

/-- The indentation in front of a line of a block, and the empty lines before it. -/
structure Indentation where
  /-- The ends of the empty lines. -/
  breaks : List Char
  /-- The widest indentation seen. -/
  widest : Nat
  position : Position
  rest : List Char

/-- Skips indentation and empty lines. An indentation of zero is not known yet. -/
def scanIndentation (indent : Nat) (breaks : List Char) (widest : Nat) (position : Position) :
    List Char → Option Indentation
  | [] => some { breaks, widest := max widest position.column, position, rest := [] }
  | c :: rest =>
    let inside : Bool := indent = 0 || position.column < indent
    if c = ' ' ∧ inside then scanIndentation indent breaks widest (position.past c) rest
    else if c = '\t' ∧ inside then none
    else if isBreak c then
      scanIndentation indent (breaks ++ [c]) (max widest position.column) (position.past c) rest
    else some { breaks, widest := max widest position.column, position, rest := c :: rest }

def Position.over (position : Position) (text : List Char) : Position :=
  text.foldl Position.past position

/-- Reads the lines of a block. `lineEnd` is the end of the line before, `breaks` those of the empty
lines since, and `blankLine` tells whether the line before began with a blank. -/
def scanBlockLines (literal : Bool) (chomping : Chomping) (indent : Nat) :
    Nat → List Char → Option Char → List Char → Bool → Position → List Char → Option Scanned
  | 0, _, _, _, _, _, _ => none
  | fuel + 1, back, lineEnd, breaks, blankLine, position, text =>
    if position.column = indent ∧ !text.isEmpty then
      let startsBlank := text.head?.any isSpace
      let joined :=
        if !literal ∧ lineEnd = some '\n' ∧ !blankLine ∧ !startsBlank then
          if breaks.isEmpty then [' '] else []
        else lineEnd.toList
      let line := text.takeWhile (!isBreak ·)
      let back := line.reverse ++ (joined ++ breaks).reverse ++ back
      let position := position.over line
      let (lineEnd, position, rest) := match text.dropWhile (!isBreak ·) with
        | c :: rest => (some c, position.past c, rest)
        | [] => (none, position, [])
      match scanIndentation indent [] 0 position rest with
      | some next =>
        scanBlockLines literal chomping indent fuel back lineEnd next.breaks startsBlank
          next.position next.rest
      | none => none
    else
      let tail := match chomping with
        | .strip => []
        | .clip => lineEnd.toList
        | .keep => lineEnd.toList ++ breaks
      some { text := back.reverse ++ tail, position, rest := text }

/-- The indicators of a block: how its end is treated, and by how much it is indented. -/
def blockIndicators : List Char → Option (Chomping × Nat × List Char)
  | c :: rest =>
    let sign? (c : Char) : Option Chomping :=
      if c = '+' then some .keep else if c = '-' then some .strip else none
    match sign? c with
    | some chomping => match rest with
      | d :: rest =>
        if d = '0' then none
        else if d.isDigit then some (chomping, d.toNat - '0'.toNat, rest)
        else some (chomping, 0, d :: rest)
      | [] => some (chomping, 0, [])
    | none =>
      if c = '0' then none
      else if c.isDigit then match rest with
        | d :: more => match sign? d with
          | some chomping => some (chomping, c.toNat - '0'.toNat, more)
          | none => some (.clip, c.toNat - '0'.toNat, rest)
        | [] => some (.clip, c.toNat - '0'.toNat, [])
      else some (.clip, 0, c :: rest)
  | [] => some (.clip, 0, [])

/-- Reads a block behind its first indicator. `indent` is the indentation of the block around it. -/
def scanBlock (literal : Bool) (indent : Int) (position : Position) (text : List Char) :
    Option Scanned := do
  let (chomping, increment, afterIndicators) ← blockIndicators text
  let afterBlanks := afterIndicators.dropWhile isSpace
  let afterComment := match afterBlanks with
    | '#' :: _ => afterBlanks.dropWhile (!isBreak ·)
    | _ => afterBlanks
  let position := position.over (text.take (text.length - afterComment.length))
  let (position, rest) ← match afterComment with
    | [] => some (position, [])
    | c :: rest => if isBreak c then some (position.past c, rest) else none
  let given := if increment = 0 then 0 else (max indent 0).toNat + increment
  let first ← scanIndentation given [] 0 position rest
  let indent := if given = 0 then max (max first.widest (indent + 1).toNat) 1 else given
  scanBlockLines literal chomping indent (rest.length + 1) [] none first.breaks false first.position
    first.rest

end Yaml

end SearchQuery
