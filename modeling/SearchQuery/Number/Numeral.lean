import SearchQuery.Number.Binary64
/-!
# Numerals

The parts of a number in decimal notation, as they are written. What may be left out differs from
format to format; here every part may be empty.
-/

namespace SearchQuery

def decimalValue (digits : List Char) : Nat :=
  digits.foldl (fun sum c => 10 * sum + (c.toNat - '0'.toNat)) 0

/-- A decimal numeral: a sign, digits, digits behind a point, and an exponent of ten. -/
structure Numeral where
  sign : Option Char
  whole : List Char
  fraction : Option (List Char)
  exponent : Option (Option Char × List Char)

namespace Numeral

/-- A sign at the start of a text, and the rest. -/
def signOf : List Char → Option Char × List Char
  | '+' :: rest => (some '+', rest)
  | '-' :: rest => (some '-', rest)
  | text => (none, text)

def ofText (text : List Char) : Option Numeral :=
  let (sign, text) := signOf text
  let (whole, text) := text.span Char.isDigit
  let (fraction, text) := match text with
    | '.' :: rest => (some (rest.takeWhile Char.isDigit), rest.dropWhile Char.isDigit)
    | _ => (none, text)
  match text with
  | [] => some { sign, whole, fraction, exponent := none }
  | c :: rest =>
    let (exponentSign, digits) := signOf rest
    if (c = 'e' ∨ c = 'E') ∧ digits.all Char.isDigit then
      some { sign, whole, fraction, exponent := some (exponentSign, digits) }
    else none

def value (numeral : Numeral) : Binary64 :=
  let fraction := numeral.fraction.getD []
  let exponent : Int := match numeral.exponent with
    | some (some '-', digits) => -decimalValue digits
    | some (_, digits) => decimalValue digits
    | none => 0
  .ofDecimal (numeral.sign = some '-') (decimalValue (numeral.whole ++ fraction))
    (exponent - fraction.length)

end Numeral

end SearchQuery
