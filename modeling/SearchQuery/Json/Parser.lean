import SearchQuery.Json.Basic
/-!
# Reading JSON text

Text is cut into tokens, and the tokens are read with a stack of the containers still open. A text
is refused when it is no JSON value, when a number is out of range, or when more than 127
containers are open at once. Values are canonical: members are in increasing order of their names,
and the last of several members of one name is kept.
-/

namespace SearchQuery

namespace Json

/-- The largest whole number that is kept exactly. -/
def greatestInt : Nat := 2 ^ 64 - 1

/-- The digits at the front of a text, and what follows them. -/
private def spanDigits (text : List Char) : List Char × List Char :=
  (text.takeWhile Char.isDigit, text.dropWhile Char.isDigit)

/-- Appends digits to a significand as long as it fits sixty-four bits; also tells how many digits
were left out. -/
private def significand (start : Nat) : List Char → Nat × Nat
  | [] => (start, 0)
  | c :: rest =>
    let next := start * 10 + (c.toNat - '0'.toNat)
    if greatestInt < next then (start, rest.length + 1) else significand next rest

/-- `significand * 10 ^ exponent` in floating-point arithmetic: the significand is rounded, then
multiplied with or divided by a rounded power of ten; nothing when the result is out of range. -/
private def scaled (significand : Nat) (exponent : Int) : Option Binary64 :=
  let start := Binary64.ofNat significand
  if significand = 0 then some start
  else if 0 ≤ exponent then
    if 308 < exponent then none
    else
      let product := start.mul (Binary64.ofNat (10 ^ exponent.toNat))
      if product.isFinite then some product else none
  else
    let down := (-exponent).toNat
    if down ≤ 308 then some (start.div (Binary64.ofNat (10 ^ down)))
    else if down ≤ 616 then
      some ((start.div (Binary64.ofNat (10 ^ 308))).div (Binary64.ofNat (10 ^ (down - 308))))
    else some (Binary64.zero false)

/-- The exponent behind an `e`, and what follows it. -/
private def exponentPart (text : List Char) : Option (Int × List Char) :=
  let (negative, text) := match text with
    | '+' :: rest => (false, rest)
    | '-' :: rest => (true, rest)
    | _ => (false, text)
  match spanDigits text with
  | ([], _) => none
  | (digits, rest) =>
    let value := digits.foldl (fun (n : Nat) c => min (n * 10 + (c.toNat - '0'.toNat)) 100000) 0
    some (if negative then -value else value, rest)

/-- A number without its sign, and what follows it. -/
private def number (negative : Bool) (text : List Char) : Option (Json × List Char) := do
  let (whole, rest) := spanDigits text
  if whole.isEmpty ∨ (whole.length ≠ 1 ∧ whole.head? = some '0') then none
  let (start, skipped) := significand 0 whole
  let signed (x : Binary64) : Json := .float (if negative then x.neg else x)
  let withExponent (digits : Nat) (shift : Int) (rest : List Char) : Option (Json × List Char) :=
    match rest with
    | c :: rest' =>
      if c = 'e' ∨ c = 'E' then do
        let (exponent, after) ← exponentPart rest'
        return (signed (← scaled digits (shift + exponent)), after)
      else do return (signed (← scaled digits shift), rest)
    | [] => do return (signed (← scaled digits shift), [])
  match rest with
  | '.' :: rest' =>
    match spanDigits rest' with
    | ([], _) => none
    | (fraction, after) =>
      let (digits, left) := significand start fraction
      withExponent digits (skipped - (fraction.length - left : Nat)) after
  | 'e' :: _ | 'E' :: _ => withExponent start skipped rest
  | _ =>
    if skipped ≠ 0 then withExponent start skipped rest
    else if !negative then some (.int start, rest)
    else if start = 0 ∨ 2 ^ 63 < start then some (signed (Binary64.ofNat start), rest)
    else some (.int (-start), rest)

private def hexCode (digits : List Char) : Option Nat :=
  digits.foldlM (fun (n : Nat) c =>
    if c.isDigit then some (n * 16 + (c.toNat - '0'.toNat))
    else if 'a' ≤ c ∧ c ≤ 'f' then some (n * 16 + (c.toNat - 'a'.toNat + 10))
    else if 'A' ≤ c ∧ c ≤ 'F' then some (n * 16 + (c.toNat - 'A'.toNat + 10))
    else none) 0

/-- The character that a backslash and a letter stand for. -/
private def escaped : Char → Option Char
  | '"' => some '"'
  | '\\' => some '\\'
  | '/' => some '/'
  | 'b' => some '\x08'
  | 'f' => some '\x0c'
  | 'n' => some '\n'
  | 'r' => some '\r'
  | 't' => some '\t'
  | _ => none

/-- The characters up to the closing quote, in reverse on top of `done`, and what follows it. -/
private def stringBody (done : List Char) : List Char → Option (List Char × List Char)
  | '"' :: rest => some (done, rest)
  | '\\' :: 'u' :: a :: b :: c :: d :: rest =>
    match hexCode [a, b, c, d] with
    | none => none
    | some code =>
      if 0xD800 ≤ code ∧ code < 0xDC00 then
        match rest with
        | '\\' :: 'u' :: e :: f :: g :: h :: rest' =>
          match hexCode [e, f, g, h] with
          | none => none
          | some low =>
            if 0xDC00 ≤ low ∧ low < 0xE000 then
              let joined := 0x10000 + (code - 0xD800) * 0x400 + (low - 0xDC00)
              stringBody (Char.ofNat joined :: done) rest'
            else none
        | _ => none
      else if 0xDC00 ≤ code ∧ code < 0xE000 then none
      else stringBody (Char.ofNat code :: done) rest
  | '\\' :: c :: rest =>
    match escaped c with
    | none => none
    | some c => stringBody (c :: done) rest
  | c :: rest => if c.toNat < 32 then none else stringBody (c :: done) rest
  | [] => none

/-- A part of a JSON text: a mark, or a value that is no container. -/
inductive Token where
  | openArray
  | closeArray
  | openObject
  | closeObject
  | comma
  | colon
  | value (value : Json)

/-- The first token of a text without leading blanks, and what follows it. -/
private def Token.next : List Char → Option (Token × List Char)
  | '[' :: rest => some (.openArray, rest)
  | ']' :: rest => some (.closeArray, rest)
  | '\x7b' :: rest => some (.openObject, rest)
  | '\x7d' :: rest => some (.closeObject, rest)
  | ',' :: rest => some (.comma, rest)
  | ':' :: rest => some (.colon, rest)
  | '"' :: rest => (stringBody [] rest).map fun (text, after) =>
      (.value (.str (String.ofList text.reverse)), after)
  | 'n' :: 'u' :: 'l' :: 'l' :: rest => some (.value .null, rest)
  | 't' :: 'r' :: 'u' :: 'e' :: rest => some (.value (.bool true), rest)
  | 'f' :: 'a' :: 'l' :: 's' :: 'e' :: rest => some (.value (.bool false), rest)
  | '-' :: rest => (number true rest).map fun (n, after) => (.value n, after)
  | text => (number false text).map fun (n, after) => (.value n, after)

def isBlank (c : Char) : Bool := c == ' ' || c == '\t' || c == '\n' || c == '\r'

def tokens (text : List Char) : Option (List Token) :=
  match text.dropWhile isBlank with
  | [] => some []
  | c :: rest =>
    match Token.next (c :: rest) with
    | none => none
    | some (token, after) =>
      if after.length < text.length then (tokens after).map (token :: ·) else none
termination_by text.length

/-- A container that is still open, with what has been read of it. -/
inductive Frame where
  /-- The items so far, the last one first. -/
  | array (done : List Json)
  /-- The members so far, and the name of the member that is being read. -/
  | object (done : Object) (name : String)

/-- What may stand next in a text. -/
inductive Expected where
  /-- A value, or the end of an array that was just opened. -/
  | value (mayClose : Bool)
  /-- The name of a member, or the end of an object that was just opened. -/
  | member (mayClose : Bool)
  /-- The colon behind a name. -/
  | colon
  /-- A comma or the end of the innermost container. -/
  | separator
  /-- Nothing more: the text was this value. -/
  | nothing (value : Json)

/-- How many containers may be open at once. -/
def depthLimit : Nat := 127

/-- Adds a complete value to the innermost open container. -/
private def deliver (value : Json) : List Frame → Expected × List Frame
  | .array done :: stack => (.separator, .array (value :: done) :: stack)
  | .object done name :: stack => (.separator, .object (done.insert name value) name :: stack)
  | [] => (.nothing value, [])

/-- Opens a container, unless too many are open. -/
private def openFrame (frame : Frame) (stack : List Frame) : Option (List Frame) :=
  if depthLimit ≤ stack.length then none else some (frame :: stack)

/-- What is expected after one token, and the containers then open. -/
private def advance : Expected → Token → List Frame → Option (Expected × List Frame)
  | .value _, .openArray, stack => (openFrame (.array []) stack).map (.value true, ·)
  | .value _, .openObject, stack => (openFrame (.object [] "") stack).map (.member true, ·)
  | .value _, .value value, stack => some (deliver value stack)
  | .value true, .closeArray, .array _ :: stack => some (deliver (.arr []) stack)
  | .member _, .value (.str name), .object done _ :: stack =>
    some (.colon, .object done name :: stack)
  | .member true, .closeObject, .object _ _ :: stack => some (deliver (.obj []) stack)
  | .colon, .colon, stack => some (.value false, stack)
  | .separator, .comma, .array done :: stack => some (.value false, .array done :: stack)
  | .separator, .comma, .object done name :: stack =>
    some (.member false, .object done name :: stack)
  | .separator, .closeArray, .array done :: stack => some (deliver (.arr done.reverse) stack)
  | .separator, .closeObject, .object done _ :: stack => some (deliver (.obj done) stack)
  | _, _, _ => none

private def ofTokens (expected : Expected) (stack : List Frame) : List Token → Option Json
  | [] => match expected with
    | .nothing value => some value
    | _ => none
  | token :: rest =>
    match advance expected token stack with
    | some (expected, stack) => ofTokens expected stack rest
    | none => none

def parse (text : String) : Option Json :=
  (tokens text.toList).bind (ofTokens (.value false) [])

end Json

end SearchQuery
