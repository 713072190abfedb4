import SearchQuery.Number.Power
/-!
# Binary64 numbers

A 64-bit binary floating-point number, kept as its bit pattern. A finite number is a sign and
`significand * 2 ^ scale`, and every arithmetic step here is exact arithmetic on natural numbers
followed by one rounding to the nearest representable number, a tie going to the even significand.
-/

namespace SearchQuery

/-- A floating-point number in the 64-bit interchange format. -/
structure Binary64 where
  /-- One sign bit, eleven exponent bits and fifty-two fraction bits, highest first. -/
  bits : UInt64
deriving DecidableEq, Inhabited

namespace Binary64

def isNegative (x : Binary64) : Bool := 2 ^ 63 ≤ x.bits.toNat

/-- The eleven exponent bits as a number. -/
def exponentField (x : Binary64) : Nat := x.bits.toNat / 2 ^ 52 % 2048

/-- The fifty-two fraction bits as a number. -/
def fractionField (x : Binary64) : Nat := x.bits.toNat % 2 ^ 52

def isFinite (x : Binary64) : Bool := x.exponentField != 2047

def isNaN (x : Binary64) : Bool := x.exponentField == 2047 && x.fractionField != 0

def significand (x : Binary64) : Nat :=
  if x.exponentField = 0 then x.fractionField else x.fractionField + 2 ^ 52

/-- The power of two that the significand of a finite number is multiplied with. -/
def scale (x : Binary64) : Int :=
  if x.exponentField = 0 then -1074 else x.exponentField - 1075

/-- A number from its sign and its remaining sixty-three bits; too large a magnitude is infinity. -/
def ofMagnitude (negative : Bool) (magnitude : Nat) : Binary64 :=
  ⟨UInt64.ofNat ((if negative then 2 ^ 63 else 0) + min magnitude (2047 * 2 ^ 52))⟩

/-- Zero, of either sign. -/
def zero (negative : Bool) : Binary64 := ofMagnitude negative 0

/-- Infinity, of either sign. -/
def infinity (negative : Bool) : Binary64 := ofMagnitude negative (2047 * 2 ^ 52)

/-- The quiet NaN. -/
def nan : Binary64 := ⟨UInt64.ofNat (4095 * 2 ^ 51)⟩

/-- The quotient rounded to the nearest natural number, a tie going to the even one. -/
def roundHalfEven (num den : Nat) : Nat :=
  let quotient := num / den
  let twice := 2 * (num % den)
  if den < twice ∨ (twice = den ∧ quotient % 2 = 1) then quotient + 1 else quotient

/-- `num / den`, rounded to the nearest representable number.

The unit in the last place is chosen so that the quotient has fifty-three bits, or is the smallest
one there is. A quotient that rounds up to the next power of two carries into the exponent bits. -/
def ofRatio (negative : Bool) (num den : Nat) : Binary64 :=
  if num = 0 ∨ den = 0 then zero negative
  else
    let quotientAt (unit : Int) : Nat × Nat := (num * 2 ^ (-unit).toNat, den * 2 ^ unit.toNat)
    let low : Int := num.log2 - den.log2 - 53
    let unit := if (quotientAt low).1 / (quotientAt low).2 < 2 ^ 53 then low else low + 1
    let unit := max unit (-1074)
    let rounded := roundHalfEven (quotientAt unit).1 (quotientAt unit).2
    ofMagnitude negative ((unit + 1074).toNat * 2 ^ 52 + rounded)

/-- The nearest number to a natural number. -/
def ofNat (n : Nat) : Binary64 := ofRatio false n 1

/-- The nearest number to an integer. -/
def ofInt (i : Int) : Binary64 := ofRatio (decide (i < 0)) i.natAbs 1

/-- The magnitude of a finite number as a quotient of natural numbers. -/
def ratio (x : Binary64) : Nat × Nat :=
  (x.significand * 2 ^ x.scale.toNat, 2 ^ (-x.scale).toNat)

def mul (x y : Binary64) : Binary64 :=
  ofRatio (x.isNegative != y.isNegative) (x.ratio.1 * y.ratio.1) (x.ratio.2 * y.ratio.2)

/-- The quotient of two finite numbers, the second not zero. -/
def div (x y : Binary64) : Binary64 :=
  ofRatio (x.isNegative != y.isNegative) (x.ratio.1 * y.ratio.2) (x.ratio.2 * y.ratio.1)

def neg (x : Binary64) : Binary64 :=
  ⟨UInt64.ofNat ((x.bits.toNat + 2 ^ 63) % 2 ^ 64)⟩

/-- Whether the number is zero, of either sign. -/
def isZero (x : Binary64) : Bool := x.isFinite && x.significand == 0

/-- `digits * 10 ^ exponent`, rounded once. Exponents that leave the range whatever the digits are
answered without computing the power. -/
def ofDecimal (negative : Bool) (digits : Nat) (exponent : Int) : Binary64 :=
  let places := (Nat.toDigits 10 digits).length
  if digits = 0 ∨ exponent + places < -330 then zero negative
  else if 310 < exponent + places then infinity negative
  else ofRatio negative (digits * 10 ^ exponent.toNat) (10 ^ (-exponent).toNat)

end Binary64

end SearchQuery
