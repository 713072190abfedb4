/-!
# Punycode

The form of a label of a domain name in ASCII: the ASCII characters of the label first, and behind
a hyphen the places of all others, as differences written in base thirty-six with a bias that
adapts to the size of the differences before.
-/

namespace SearchQuery

namespace Http

namespace Punycode

def digit (value : Nat) : Char :=
  if value < 26 then Char.ofNat ('a'.toNat + value) else Char.ofNat ('0'.toNat + value - 26)

def digitValue? (c : Char) : Option Nat :=
  if 'a' ≤ c ∧ c ≤ 'z' then some (c.toNat - 'a'.toNat)
  else if c.isDigit then some (c.toNat - '0'.toNat + 26)
  else none

/-- The least digit that ends a number, at the position `k` in steps of thirty-six. -/
def threshold (bias k : Nat) : Nat := if k ≤ bias then 1 else min 26 (k - bias)

def adapt (delta points : Nat) (first : Bool) : Nat :=
  let scaled := if first then delta / 700 else delta / 2
  shrink (scaled + scaled / points) 0
where
  /-- Divides until the difference is small, and counts the divisions in steps of thirty-six. -/
  shrink (delta k : Nat) : Nat :=
    if 455 < delta then shrink (delta / 35) (k + 36) else k + 36 * delta / (delta + 38)
  termination_by delta

def digits (bias k delta : Nat) : List Char :=
  let t := threshold bias k
  if delta < t then [digit delta]
  else digit (t + (delta - t) % (36 - t)) :: digits bias (k + 36) ((delta - t) / (36 - t))
termination_by delta
decreasing_by
  have positive : 1 ≤ threshold bias k := by
    unfold threshold
    split <;> omega
  exact Nat.lt_of_le_of_lt (Nat.div_le_self _ _) (by omega)

/-- The state while a label is written. -/
structure Progress where
  written : List Char
  delta : Nat
  bias : Nat
  handled : Nat

/-- Goes past one character while all characters with the code `point` are written. -/
def visit (basic point : Nat) (progress : Progress) (c : Char) : Progress :=
  if c.toNat < point then { progress with delta := progress.delta + 1 }
  else if c.toNat = point then
    { written := progress.written ++ digits progress.bias 36 progress.delta
      delta := 0
      bias := adapt progress.delta (progress.handled + 1) (progress.handled = basic)
      handled := progress.handled + 1 }
  else progress

/-- Writes the characters with the given codes, which increase, as differences. -/
def writePoints (label : List Char) (basic : Nat) : List Nat → Nat → Progress → Progress
  | [], _, progress => progress
  | point :: rest, last, progress =>
    let start :=
      { progress with delta := progress.delta + (point - last) * (progress.handled + 1) }
    let finish := label.foldl (visit basic point) start
    writePoints label basic rest (point + 1) { finish with delta := finish.delta + 1 }

/-- The codes of a label that are not ASCII, increasing, each once. -/
def points (label : List Char) : List Nat :=
  ((label.map Char.toNat).filter (128 ≤ ·)).mergeSort.eraseDups

/-- The ASCII form of a label, without the mark in front. -/
def encode (label : List Char) : List Char :=
  let basic := label.filter (·.toNat < 128)
  let front := if basic.isEmpty then [] else basic ++ ['-']
  (writePoints label basic.length (points label) 128
    { written := front, delta := 0, bias := 72, handled := basic.length }).written

/-- Reads one difference: its value with the digits behind it. -/
def readDelta (bias : Nat) : Nat → Nat → Nat → List Char → Option (Nat × List Char)
  | _, _, _, [] => none
  | k, weight, sum, c :: rest =>
    match digitValue? c with
    | none => none
    | some value =>
      let t := threshold bias k
      let sum := sum + value * weight
      if value < t then some (sum, rest) else readDelta bias (k + 36) (weight * (36 - t)) sum rest

/-- Reads differences, and puts their characters into the label. -/
def readPoints : Nat → Nat → Nat → Nat → List Char → List Char → Option (List Char)
  | _, _, _, _, label, [] => some label
  | 0, _, _, _, _, _ => none
  | fuel + 1, point, position, bias, label, input =>
    match readDelta bias 36 1 position input with
    | none => none
    | some (next, rest) =>
      let size := label.length + 1
      let point := point + next / size
      if h : point.isValidChar then
        let place := next % size
        readPoints fuel point (place + 1) (adapt (next - position) size (position = 0))
          (label.take place ++ [Char.ofNatAux point h] ++ label.drop place) rest
      else none

def decode (text : List Char) : Option (List Char) :=
  let (front, digits) := match text.reverse.span (· != '-') with
    | (back, _ :: front) => (front.reverse, back.reverse)
    | (back, []) => ([], back.reverse)
  readPoints digits.length 128 0 72 front digits

end Punycode

end Http

end SearchQuery
