import SearchQuery.Json.Basic
import SearchQuery.Number.Numeral
/-!
# YAML scalars

What a plain scalar stands for: null, a truth value, a number, or else its own text. Whole numbers
may be written in four bases; digits with a zero in front are no number.
-/

namespace SearchQuery

namespace Yaml

/-- What a plain scalar stands for. -/
inductive Resolved where
  | null
  | bool (value : Bool)
  /-- A whole number without a minus sign. -/
  | count (value : Nat)
  /-- A whole number behind a minus sign. -/
  | signed (value : Int)
  /-- A whole number that sixty-four bits do not hold. -/
  | tooLarge
  | float (value : Binary64)
  | text

def isNullWord (text : String) : Bool := ["null", "Null", "NULL", "~"].contains text

def boolWord? (text : String) : Option Bool :=
  if ["true", "True", "TRUE"].contains text then some true
  else if ["false", "False", "FALSE"].contains text then some false
  else none

/-- Whether a text is digits with a zero in front, behind at most one sign. -/
def isZeroPadded (text : List Char) : Bool :=
  match (Numeral.signOf text).2 with
  | '0' :: c :: rest => (c :: rest).all Char.isDigit
  | _ => false

/-- The value of a digit in a base. -/
def digitOf? (base : Nat) (c : Char) : Option Nat :=
  let value? : Option Nat :=
    if c.isDigit then some (c.toNat - '0'.toNat)
    else if 'a' ≤ c ∧ c ≤ 'f' then some (c.toNat - 'a'.toNat + 10)
    else if 'A' ≤ c ∧ c ≤ 'F' then some (c.toNat - 'A'.toNat + 10)
    else none
  value?.filter (· < base)

/-- The number that at least one digit spells. -/
def digitsValue? (base : Nat) (text : List Char) : Option Nat :=
  if text.isEmpty then none
  else text.foldlM (fun sum c => (digitOf? base c).map (base * sum + ·)) 0

/-- A whole number without sign, in any base. -/
def magnitude? (text : List Char) : Option Nat :=
  match text with
  | '0' :: 'x' :: digits => digitsValue? 16 digits
  | '0' :: 'o' :: digits => digitsValue? 8 digits
  | '0' :: 'b' :: digits => digitsValue? 2 digits
  | digits => if isZeroPadded digits then none else digitsValue? 10 digits

/-- A whole number that may have a plus sign. -/
def count? (text : List Char) : Option Nat :=
  match text with
  | '+' :: rest => magnitude? rest
  | text => magnitude? text

/-- A floating-point number, which may be written without fraction and exponent. -/
def float? (text : String) : Option Binary64 :=
  let chars := text.toList
  let unsigned := match chars with
    | '+' :: rest => rest
    | other => other
  if [".inf", ".Inf", ".INF"].contains (String.ofList unsigned) then some (.infinity false)
  else if ["-.inf", "-.Inf", "-.INF"].contains text then some (.infinity true)
  else if [".nan", ".NaN", ".NAN"].contains text then some .nan
  else do
    let numeral ← Numeral.ofText unsigned
    let digits := numeral.whole.length + (numeral.fraction.getD []).length
    if chars.head? = some '+' ∧ numeral.sign.isSome then none
    if digits = 0 ∨ (numeral.exponent.map (·.2)) = some [] then none
    if numeral.value.isFinite then some numeral.value else none

def resolve (text : String) : Resolved :=
  let chars := text.toList
  if text.isEmpty ∨ isNullWord text then .null
  else match boolWord? text with
    | some value => .bool value
    | none =>
      let asFloat : Resolved :=
        if isZeroPadded chars then .text
        else match float? text with
          | some value => .float value
          | none => .text
      match chars with
      | '-' :: rest =>
        match magnitude? rest with
        | some n => if n ≤ 2 ^ 63 then .signed (-n) else if n ≤ 2 ^ 127 then .tooLarge else asFloat
        | none => asFloat
      | _ =>
        match count? chars with
        | some n => if n < 2 ^ 64 then .count n else if n < 2 ^ 128 then .tooLarge else asFloat
        | none => asFloat

end Yaml

end SearchQuery
