import SearchQuery.Http.Percent
import SearchQuery.Http.Punycode
import SearchQuery.Number.Power
/-!
# Hosts of URLs

A host is a domain name in ASCII, or an address of either family; of a scheme that is not special
it is any text without delimiters. Numbers in a domain that ends in a number are those of an IPv4
address, in any of its spellings.
-/

namespace SearchQuery

namespace Http

/-- Why a text is no URL. -/
inductive UrlError where
  | emptyHost
  | invalidDomain
  | invalidPort
  | invalidIpv4
  | invalidIpv6
  | invalidHostCharacter
  | noScheme
deriving DecidableEq

def UrlError.message : UrlError → String
  | .emptyHost => "empty host"
  | .invalidDomain => "invalid international domain name"
  | .invalidPort => "invalid port number"
  | .invalidIpv4 => "invalid IPv4 address"
  | .invalidIpv6 => "invalid IPv6 address"
  | .invalidHostCharacter => "invalid domain character"
  | .noScheme => "relative URL without a base"

/-- A host. -/
inductive Host where
  | name (text : String)
  | ipv4 (address : Nat)
  | ipv6 (pieces : List Nat)
deriving DecidableEq

/-- The parts of a text between the separators; always at least one. -/
def splitAtChar (separator : Char) : List Char → List (List Char)
  | [] => [[]]
  | c :: rest =>
    if c = separator then [] :: splitAtChar separator rest
    else match splitAtChar separator rest with
      | part :: parts => (c :: part) :: parts
      | [] => [[c]]

/-- The number that digits spell in a base; nothing for a character that is no digit of it. -/
def numeral? (base : Nat) (text : List Char) : Option Nat :=
  text.foldlM (fun sum c => do
    let value ← hexValue? c
    if value < base then some (base * sum + value) else none) 0

/-- A number of an IPv4 address: hexadecimal behind `0x`, octal behind another zero, or decimal. -/
def ipv4Number? (text : List Char) : Option Nat :=
  match text with
  | [] => none
  | '0' :: 'x' :: rest | '0' :: 'X' :: rest => numeral? 16 rest
  | '0' :: c :: rest => numeral? 8 (c :: rest)
  | text => numeral? 10 text

/-- The parts of a domain, without the empty one behind a final dot. -/
def domainParts (domain : List Char) : List (List Char) :=
  match (splitAtChar '.' domain).reverse with
  | [] :: rest => rest.reverse
  | all => all.reverse

def endsInNumber (domain : List Char) : Bool :=
  match (domainParts domain).getLast? with
  | none => false
  | some last => (!last.isEmpty && last.all Char.isDigit) || (ipv4Number? last).isSome

/-- The address that up to four numbers spell; the last fills all bytes that are left. -/
def ipv4? (domain : List Char) : Option Nat := do
  let parts := domainParts domain
  if 4 < parts.length then none
  let numbers ← parts.mapM ipv4Number?
  let last ← numbers.getLast?
  let front := numbers.dropLast
  if front.any (255 < ·) ∨ 256 ^ (4 - front.length) ≤ last then none
  let high := front.foldl (fun sum n => 256 * sum + n) 0
  return high * 256 ^ (4 - front.length) + last

/-- A decimal byte of an address at the end of an IPv6 address. -/
def decimalByte? (text : List Char) : Option Nat := do
  if text.isEmpty ∨ 3 < text.length ∨ (1 < text.length ∧ text.head? = some '0') then none
  let value ← numeral? 10 text
  if value ≤ 255 then some value else none

/-- The pieces of one side of an IPv6 address; an IPv4 address at the end makes two. -/
def ipv6Side? (text : List Char) (dottedEnd : Bool) : Option (List Nat) :=
  if text.isEmpty then some [] else
  let parts := splitAtChar ':' text
  let piece? (part : List Char) : Option (List Nat) :=
    if part.isEmpty ∨ 4 < part.length then none else (numeral? 16 part).map ([·])
  let last? (part : List Char) : Option (List Nat) :=
    if dottedEnd ∧ part.contains '.' then do
      let bytes ← (splitAtChar '.' part).mapM decimalByte?
      match bytes with
      | [a, b, c, d] => some [256 * a + b, 256 * c + d]
      | _ => none
    else piece? part
  do
    let front ← parts.dropLast.mapM piece?
    let back ← last? (parts.getLastD [])
    return front.flatten ++ back

/-- The texts before and behind the first double colon. -/
def atDoubleColon : List Char → Option (List Char × List Char)
  | ':' :: ':' :: rest => some ([], rest)
  | c :: rest => (atDoubleColon rest).map fun (front, back) => (c :: front, back)
  | [] => none

def ipv6? (text : List Char) : Option (List Nat) := do
  match atDoubleColon text with
  | none =>
    let pieces ← ipv6Side? text true
    if pieces.length = 8 then some pieces else none
  | some (front, back) =>
    let front ← ipv6Side? front false
    let back ← ipv6Side? back true
    if 7 < front.length + back.length then none
    else some (front ++ List.replicate (8 - front.length - back.length) 0 ++ back)

/-- The run of zeros at the start of a list. -/
def zeroRun (pieces : List Nat) : Nat := (pieces.takeWhile (· = 0)).length

/-- Where the longest run of at least two zeros begins, the first of several, and its length. -/
def longestZeros (pieces : List Nat) : Option (Nat × Nat) :=
  (List.range pieces.length).foldl (fun best start =>
    let length := zeroRun (pieces.drop start)
    match best with
    | some (_, longest) => if longest < length then some (start, length) else best
    | none => if 2 ≤ length then some (start, length) else none) none

def ipv6Text (pieces : List Nat) : String :=
  let part (list : List Nat) : String :=
    ":".intercalate (list.map fun n => String.ofList (Nat.toDigits 16 n))
  match longestZeros pieces with
  | none => part pieces
  | some (start, length) => part (pieces.take start) ++ "::" ++ part (pieces.drop (start + length))

def Host.text : Host → String
  | .name text => text
  | .ipv4 n =>
    ".".intercalate ([n / 2 ^ 24, n / 2 ^ 16 % 256, n / 2 ^ 8 % 256, n % 256].map toString)
  | .ipv6 pieces => "[" ++ ipv6Text pieces ++ "]"

/-- A character of a domain name without regard to case and width. -/
def foldDomainChar (c : Char) : List Char :=
  let n := c.toNat
  if n = 0xad ∨ n = 0x200b ∨ n = 0x2060 ∨ n = 0xfeff then []
  else if n = 0x3002 ∨ n = 0xff0e ∨ n = 0xff61 then ['.']
  else if 0xff01 ≤ n ∧ n ≤ 0xff5e then [(Char.ofNat (n - 0xfee0)).toLower]
  else if (0xc0 ≤ n ∧ n ≤ 0xde ∧ n ≠ 0xd7) ∨ (0x391 ≤ n ∧ n ≤ 0x3a9)
      ∨ (0x410 ≤ n ∧ n ≤ 0x42f) then [Char.ofNat (n + 32)]
  else if 0x400 ≤ n ∧ n ≤ 0x40f then [Char.ofNat (n + 80)]
  else if (0x100 ≤ n ∧ n ≤ 0x137 ∨ 0x14a ≤ n ∧ n ≤ 0x177) ∧ n % 2 = 0 then
    [Char.ofNat (n + 1)]
  else if (0x139 ≤ n ∧ n ≤ 0x148) ∧ n % 2 = 1 then [Char.ofNat (n + 1)]
  else [c.toLower]

def isForbiddenInDomain (c : Char) : Bool :=
  c.toNat ≤ 32 || c.toNat = 127 ||
    ['#', '/', ':', '<', '>', '?', '@', '[', '\\', ']', '^', '|', '%'].contains c

def asciiLabel? (label : List Char) : Option (List Char) :=
  if label.all (·.toNat < 128) then
    match label with
    | 'x' :: 'n' :: '-' :: '-' :: rest => do
      let decoded ← Punycode.decode rest
      if decoded.all (·.toNat < 128) then none else some label
    | _ => some label
  else some (['x', 'n', '-', '-'] ++ Punycode.encode label)

/-- The host of a special scheme. -/
def Host.ofDomain (text : List Char) : Except UrlError Host := do
  let some decoded := String.fromUTF8? ⟨(percentDecode text).toArray⟩ | .error .invalidDomain
  let folded := decoded.toList.flatMap foldDomainChar
  let some labels := (splitAtChar '.' folded).mapM asciiLabel? | .error .invalidDomain
  let domain := ['.'].intercalate labels
  if domain.any isForbiddenInDomain then .error .invalidDomain
  if domain.isEmpty then .error .emptyHost
  if endsInNumber domain then
    match ipv4? domain with
    | some address => .ok (.ipv4 address)
    | none => .error .invalidIpv4
  else .ok (.name (String.ofList domain))

/-- The host of a scheme that is not special. -/
def Host.ofOpaque (text : List Char) : Except UrlError Host :=
  if text.any fun c => c = '\x00' || [' ', '\t', '\n', '\r', '#', '/', ':', '<', '>', '?', '@', '[',
      '\\', ']', '^', '|'].contains c then .error .invalidHostCharacter
  else .ok (.name (String.ofList (percentEncode isControl text)))

/-- Reads a host: an IPv6 address between brackets, or a name. -/
def Host.parse (special : Bool) (text : List Char) : Except UrlError Host :=
  match text with
  | '[' :: rest =>
    if rest.getLast? = some ']' then
      match ipv6? rest.dropLast with
      | some pieces => .ok (.ipv6 pieces)
      | none => .error .invalidIpv6
    else .error .invalidIpv6
  | _ =>
    if special then
      if text.isEmpty then .error .emptyHost else Host.ofDomain text
    else Host.ofOpaque text

end Http

end SearchQuery
