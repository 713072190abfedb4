import SearchQuery.Yaml.Token.Text
/-!
# Reading YAML tokens

A text is read token by token. What is a key shows only at the colon behind it, so that every token
that may begin a key is remembered until its line ends, and the marks of the key are put in front of
it when the colon comes.
-/

namespace SearchQuery

namespace Yaml

/-- A token that may begin a key. -/
structure PendingKey where
  /-- Whether it has to, because it stands at the indentation of its block. -/
  required : Bool
  /-- How many tokens were in front of it. -/
  number : Nat
  position : Position

/-- The state of reading. -/
structure Lexer where
  rest : List Char
  position : Position := {}
  /-- The indentation of the innermost block; nothing is indented by less than zero. -/
  indent : Int := -1
  /-- The indentations of the blocks around it. -/
  outerIndents : List Int := []
  /-- Whether a key may begin here. -/
  keyAllowed : Bool := true
  /-- The pending key inside the innermost brackets. -/
  pending : Option PendingKey := none
  /-- The pending keys outside of each pair of brackets. -/
  outerPending : List (Option PendingKey) := []
  /-- The tokens so far, the last in front. -/
  back : List Token := []
  count : Nat := 0

namespace Lexer

def inFlow (lexer : Lexer) : Bool := !lexer.outerPending.isEmpty

def skip (lexer : Lexer) : Lexer :=
  match lexer.rest with
  | [] => lexer
  | c :: rest => { lexer with rest, position := lexer.position.past c }

def skipMany : Nat → Lexer → Lexer
  | 0, lexer => lexer
  | count + 1, lexer => skipMany count lexer.skip

def emit (lexer : Lexer) (token : Token) : Lexer :=
  { lexer with back := token :: lexer.back, count := lexer.count + 1 }

/-- Adds a token behind the first `number` ones. -/
def emitAt (lexer : Lexer) (number : Nat) (token : Token) : Lexer :=
  let later := lexer.count - number
  { lexer with
    back := lexer.back.take later ++ token :: lexer.back.drop later
    count := lexer.count + 1 }

/-- Opens a block at a column, if it is indented further than the block around it. -/
def roll (lexer : Lexer) (column number : Nat) (token : Token) : Lexer :=
  if !lexer.inFlow ∧ lexer.indent < column then
    { lexer with indent := column, outerIndents := lexer.indent :: lexer.outerIndents }.emitAt
      number token
  else lexer

/-- How many blocks end at a column, and the indentations that are left. -/
def closed (column : Int) : Int → List Int → Nat × Int × List Int
  | indent, outer :: outers =>
    if column < indent then
      let (count, indent, outers) := closed column outer outers
      (count + 1, indent, outers)
    else (0, indent, outer :: outers)
  | indent, [] => (0, indent, [])

/-- Ends the blocks that are indented further than a column. -/
def unroll (lexer : Lexer) (column : Int) : Lexer :=
  if lexer.inFlow then lexer
  else
    let (count, indent, outerIndents) := closed column lexer.indent lexer.outerIndents
    { lexer with
      indent, outerIndents
      back := List.replicate count .blockEnd ++ lexer.back
      count := lexer.count + count }

/-- Gives up the pending key, which must not be required. -/
def dropKey (lexer : Lexer) : Option Lexer :=
  match lexer.pending with
  | some key => if key.required then none else some { lexer with pending := none }
  | none => some lexer

def saveKey (lexer : Lexer) : Option Lexer := do
  if lexer.keyAllowed then
    let lexer ← lexer.dropKey
    return { lexer with pending := some {
      required := !lexer.inFlow && lexer.indent = lexer.position.column
      number := lexer.count
      position := lexer.position } }
  else return lexer

/-- How many bytes long a key may be. -/
def keyLimit : Nat := 1024

/-- A pending key, if it may still become one here; one that is required must. -/
def refreshed (position : Position) : Option PendingKey → Option (Option PendingKey)
  | some key =>
    if key.position.line < position.line ∨ key.position.index + keyLimit < position.index then
      if key.required then none else some none
    else some (some key)
  | none => some none

/-- Gives up the pending keys whose line has ended or that are too long. -/
def dropStaleKeys (lexer : Lexer) : Option Lexer := do
  let pending ← refreshed lexer.position lexer.pending
  let outerPending ← lexer.outerPending.mapM (refreshed lexer.position)
  return { lexer with pending, outerPending }

/-- Skips blanks, comments and line ends in front of a token. A byte order mark may begin a line,
and takes up its first column. -/
def skipGaps (inFlow : Bool) (inComment : Bool) (keyAllowed : Bool) (position : Position) :
    List Char → Bool × Position × List Char
  | [] => (keyAllowed, position, [])
  | c :: rest =>
    if isBreak c then
      skipGaps inFlow false (keyAllowed || !inFlow) (position.past c) rest
    else if inComment ∨ c = ' ' ∨ (c = '\t' ∧ (inFlow ∨ !keyAllowed))
        ∨ (c = '\ufeff' ∧ position.column = 0) then
      skipGaps inFlow inComment keyAllowed (position.past c) rest
    else if c = '#' then skipGaps inFlow true keyAllowed (position.past c) rest
    else (keyAllowed, position, c :: rest)

def toToken (lexer : Lexer) : Lexer :=
  let (keyAllowed, position, rest) :=
    skipGaps lexer.inFlow false lexer.keyAllowed lexer.position lexer.rest
  { lexer with keyAllowed, position, rest }

def emitScanned (lexer : Lexer) (style : ScalarStyle) (scanned : Scanned) : Lexer :=
  { lexer with rest := scanned.rest, position := scanned.position }.emit
    (.scalar style (String.ofList scanned.text))

def openFlow (lexer : Lexer) (token : Token) : Option Lexer := do
  let lexer ← lexer.saveKey
  let lexer := { lexer with
    outerPending := lexer.pending :: lexer.outerPending
    pending := none
    keyAllowed := true }
  return lexer.skip.emit token

def closeFlow (lexer : Lexer) (token : Token) : Option Lexer := do
  let lexer ← lexer.dropKey
  let lexer := match lexer.outerPending with
    | outer :: outers => { lexer with pending := outer, outerPending := outers }
    | [] => { lexer with pending := none }
  return { lexer with keyAllowed := false }.skip.emit token

def flowEntry (lexer : Lexer) : Option Lexer := do
  let lexer ← lexer.dropKey
  return { lexer with keyAllowed := true }.skip.emit .flowEntry

def blockEntry (lexer : Lexer) : Option Lexer := do
  if !lexer.inFlow ∧ !lexer.keyAllowed then none
  let lexer ← (lexer.roll lexer.position.column lexer.count .blockSequenceStart).dropKey
  return { lexer with keyAllowed := true }.skip.emit .blockEntry

def explicitKey (lexer : Lexer) : Option Lexer := do
  if !lexer.inFlow ∧ !lexer.keyAllowed then none
  let lexer ← (lexer.roll lexer.position.column lexer.count .blockMappingStart).dropKey
  return { lexer with keyAllowed := !lexer.inFlow }.skip.emit .key

def valueMark (lexer : Lexer) : Option Lexer :=
  match lexer.pending with
  | some key =>
    let lexer := lexer.emitAt key.number .key
    let lexer := lexer.roll key.position.column key.number .blockMappingStart
    some ({ lexer with pending := none, keyAllowed := false }.skip.emit .value)
  | none =>
    if !lexer.inFlow ∧ !lexer.keyAllowed then none
    else
      let lexer := lexer.roll lexer.position.column lexer.count .blockMappingStart
      some ({ lexer with keyAllowed := !lexer.inFlow }.skip.emit .value)

def isNameChar (c : Char) : Bool := c.isAlphanum || c = '_' || c = '-'

/-- Reads the name of an anchor or alias behind its mark. -/
def named (lexer : Lexer) (token : String → Token) : Option Lexer := do
  let lexer ← lexer.saveKey
  let lexer := { lexer with keyAllowed := false }.skip
  let name := lexer.rest.takeWhile isNameChar
  let rest := lexer.rest.dropWhile isNameChar
  let ends := atGap rest || rest.head?.any fun c =>
    ['?', ':', ',', ']', '\x7d', '%', '@', '\x60'].contains c
  if name.isEmpty ∨ !ends then none
  return (skipMany name.length lexer).emit (token (String.ofList name))

/-- Whether a character may stand in a tag; in a tag between angle brackets there are more. -/
def isTagChar (bracketed : Bool) (c : Char) : Bool :=
  isNameChar c || [';', '/', '?', ':', '@', '&', '=', '+', '$', '.', '!', '~', '*', '\'', '(', ')',
    '%'].contains c || (bracketed && [',', '[', ']'].contains c)

/-- The bytes of a tag with its escapes resolved. -/
def tagBytes : List Char → Option (List UInt8)
  | [] => some []
  | '%' :: a :: b :: rest => do
    let high ← hexDigit? a
    let low ← hexDigit? b
    return UInt8.ofNat (16 * high + low) :: (← tagBytes rest)
  | c :: rest => do
    if c = '%' then none
    return String.utf8EncodeChar c ++ (← tagBytes rest)

/-- The text of a tag with its escapes resolved. -/
def tagText (text : List Char) : Option String := do
  String.fromUTF8? ⟨(← tagBytes text).toArray⟩

/-- The handle and the rest of a tag, and what follows it. -/
def splitTag : List Char → Option (String × String × List Char)
  | '!' :: '<' :: rest => do
    let uri := rest.takeWhile (isTagChar true)
    let '>' :: after := rest.dropWhile (isTagChar true) | none
    if uri.isEmpty then none
    return ("", ← tagText uri, after)
  | '!' :: rest =>
    let name := rest.takeWhile isNameChar
    match rest.dropWhile isNameChar with
    | '!' :: more => do
      let suffix := more.takeWhile (isTagChar false)
      if suffix.isEmpty then none
      return ("!" ++ String.ofList name ++ "!", ← tagText suffix,
        more.dropWhile (isTagChar false))
    | _ => do
      let suffix := rest.takeWhile (isTagChar false)
      let after := rest.dropWhile (isTagChar false)
      if suffix.isEmpty then return ("", "!", after)
      return ("!", ← tagText suffix, after)
  | _ => none

def tagged (lexer : Lexer) : Option Lexer := do
  let lexer ← lexer.saveKey
  let (handle, suffix, after) ← splitTag lexer.rest
  if !atGap after ∧ !(lexer.inFlow ∧ after.head? = some ',') then none
  let lexer := skipMany (lexer.rest.length - after.length) { lexer with keyAllowed := false }
  return lexer.emit (.tag handle suffix)

def block (lexer : Lexer) (literal : Bool) : Option Lexer := do
  let lexer := { ← lexer.dropKey with keyAllowed := true }.skip
  let scanned ← scanBlock literal lexer.indent lexer.position lexer.rest
  return lexer.emitScanned (if literal then .literal else .other) scanned

def quoted (lexer : Lexer) (double : Bool) : Option Lexer := do
  let lexer := { ← lexer.saveKey with keyAllowed := false }.skip
  let scan := if double then scanDouble else scanSingle
  return lexer.emitScanned .other (← scan .none [] lexer.position lexer.rest)

def plain (lexer : Lexer) : Option Lexer := do
  let lexer ← lexer.saveKey
  let scanned ← scanPlain lexer.inFlow lexer.indent .none [] lexer.position lexer.rest
  return { lexer with keyAllowed := scanned.overLine }.emitScanned .plain scanned

def documentMark (lexer : Lexer) (token : Token) : Option Lexer := do
  let lexer ← (lexer.unroll (-1)).dropKey
  return (skipMany 3 { lexer with keyAllowed := false }).emit token

/-- A number of at most nine digits, and what follows it. -/
def versionNumber? (text : List Char) : Option (Nat × List Char) :=
  let digits := text.takeWhile Char.isDigit
  if digits.isEmpty ∨ 9 < digits.length then none
  else some (digits.foldl (fun n c => 10 * n + (c.toNat - '0'.toNat)) 0,
    text.dropWhile Char.isDigit)

/-- The parameters of a directive that tells the version. -/
def version? (text : List Char) : Option (Token × List Char) := do
  let (major, rest) ← versionNumber? (text.dropWhile isSpace)
  let '.' :: rest := rest | none
  let (minor, rest) ← versionNumber? rest
  return (.version major minor, rest)

/-- The handle of a directive about tags, and what follows it. -/
def handle? : List Char → Option (String × List Char)
  | '!' :: rest =>
    let name := rest.takeWhile isNameChar
    match rest.dropWhile isNameChar with
    | '!' :: after => some ("!" ++ String.ofList name ++ "!", after)
    | after => if name.isEmpty then some ("!", after) else none
  | _ => none

def tagFront? (text : List Char) : Option (Token × List Char) := do
  let (handle, rest) ← handle? (text.dropWhile isSpace)
  if !rest.head?.any isSpace then none
  let rest := rest.dropWhile isSpace
  let front := rest.takeWhile (isTagChar true)
  let rest := rest.dropWhile (isTagChar true)
  if front.isEmpty ∨ !atGap rest then none
  return (.tagFront handle (← tagText front), rest)

def directive (lexer : Lexer) : Option Lexer := do
  let lexer ← (lexer.unroll (-1)).dropKey
  let text := lexer.rest.drop 1
  let rest := text.dropWhile isNameChar
  if !atGap rest then none
  let (token, rest) ← match String.ofList (text.takeWhile isNameChar) with
    | "YAML" => version? rest
    | "TAG" => tagFront? rest
    | _ => none
  let rest := rest.dropWhile isSpace
  let rest := if rest.head? = some '#' then rest.dropWhile (!isBreak ·) else rest
  if !atLineEnd rest then none
  let lexer := skipMany (lexer.rest.length - rest.length) { lexer with keyAllowed := false }
  return lexer.skip.emit token

def startsPlain (inFlow : Bool) (c : Char) (rest : List Char) : Bool :=
  !(isSpace c || ['-', '?', ':', ',', '[', ']', '\x7b', '\x7d', '#', '&', '*', '!', '|', '>',
      '\'', '"', '%', '@', '\x60'].contains c)
    || (c = '-' && !rest.head?.any isSpace)
    || (!inFlow && (c = '?' || c = ':') && !atGap rest)

def token (lexer : Lexer) (c : Char) (rest : List Char) : Option Lexer :=
  if lexer.position.column = 0 ∧ c = '%' then lexer.directive
  else if atDocumentMark lexer.position (c :: rest) then
    lexer.documentMark (if c = '-' then .documentStart else .documentEnd)
  else if c = '[' then lexer.openFlow .flowSequenceStart
  else if c = '\x7b' then lexer.openFlow .flowMappingStart
  else if c = ']' then lexer.closeFlow .flowSequenceEnd
  else if c = '\x7d' then lexer.closeFlow .flowMappingEnd
  else if c = ',' then lexer.flowEntry
  else if c = '-' ∧ atGap rest then lexer.blockEntry
  else if c = '?' ∧ (lexer.inFlow ∨ atGap rest) then lexer.explicitKey
  else if c = ':' ∧ (lexer.inFlow ∨ atGap rest) then lexer.valueMark
  else if c = '*' then lexer.named .alias
  else if c = '&' then lexer.named .anchor
  else if c = '!' then lexer.tagged
  else if c = '|' ∧ !lexer.inFlow then lexer.block true
  else if c = '>' ∧ !lexer.inFlow then lexer.block false
  else if c = '\'' then lexer.quoted false
  else if c = '"' then lexer.quoted true
  else if startsPlain lexer.inFlow c rest then lexer.plain
  else none

def run : Nat → Lexer → Option (List Token)
  | 0, _ => none
  | fuel + 1, lexer => do
    let lexer ← lexer.toToken.dropStaleKeys
    match lexer.rest with
    | [] => do
      let lexer ← (lexer.unroll (-1)).dropKey
      return lexer.back.reverse
    | c :: rest => run fuel (← (lexer.unroll lexer.position.column).token c rest)

end Lexer

def tokens (text : List Char) : Option (List Token) :=
  if text.all isAllowed then
    let text := unifyBreaks text
    Lexer.run (text.length + 1) { rest := text }
  else none

end Yaml

end SearchQuery
