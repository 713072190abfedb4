import SearchQuery.Number.Binary64
/-!
# Shortest decimal text of a number

`Binary64.shortest` gives the fewest decimal digits that read back as the same number, and among
those the nearest. How they are laid out (where positional notation ends, what an exponent looks
like) is a `DecimalLayout`, fixed by the format that is written.
-/

namespace SearchQuery

/-- The number `digits * 10 ^ exponent`, with no trailing zero among the digits. -/
structure Decimal where
  digits : Nat
  exponent : Int
deriving DecidableEq, Repr

/-- Moves trailing zeros of the digits into the exponent. -/
def Decimal.trimmed (d : Decimal) : Decimal :=
  let text := Nat.toDigits 10 d.digits
  let zeros := (text.reverse.takeWhile (· == '0')).length
  if d.digits = 0 then ⟨0, 0⟩ else ⟨d.digits / 10 ^ zeros, d.exponent + zeros⟩

namespace Binary64

/-- The position of the decimal point of `num / den`: the quotient is at least `10 ^ (p - 1)` and
less than `10 ^ p`. -/
def pointPosition (num den : Nat) : Int :=
  if den ≤ num then (Nat.toDigits 10 (num / den)).length
  else
    let length := (Nat.toDigits 10 (den / num)).length
    if num * 10 ^ (length - 1) = den then 2 - length else 1 - length

/-- The point of the grid of multiples of `10 ^ unit` that reads back as the number and is nearest
to it, if there is one. The numbers that read back lie between `low / den` and `high / den`, the
ends included when `closed`. A tie goes to the even multiple. -/
def nearestOnGrid (low num high den : Nat) (closed : Bool) (unit : Int) : Option Nat :=
  let upper := 10 ^ (-unit).toNat
  let lower := 10 ^ unit.toNat * den
  let below := num * upper / lower
  let inside (n : Nat) : Bool :=
    if closed then low * upper ≤ n * lower ∧ n * lower ≤ high * upper
    else low * upper < n * lower ∧ n * lower < high * upper
  match inside below, inside (below + 1) with
  | true, true => some (roundHalfEven (num * upper) lower)
  | true, false => some below
  | false, true => some (below + 1)
  | false, false => none

/-- The shortest decimal that reads back as the magnitude of a finite number. -/
def shortest (x : Binary64) : Decimal :=
  if x.significand = 0 then ⟨0, 0⟩
  else
    let factor := 2 ^ (x.scale - 2).toNat
    let den := 2 ^ (2 - x.scale).toNat
    let num := 4 * x.significand * factor
    let high := (4 * x.significand + 2) * factor
    let below := if x.significand = 2 ^ 52 ∧ 1 < x.exponentField then 1 else 2
    let low := (4 * x.significand - below) * factor
    let point := pointPosition num den
    let grids := (List.range' 1 17).findSome? fun (count : Nat) =>
      let unit := point - count
      (nearestOnGrid low num high den (x.significand % 2 = 0) unit).map (Decimal.mk · unit)
    (grids.getD ⟨0, 0⟩).trimmed

end Binary64

/-- How a format writes the digits of a number. -/
structure DecimalLayout where
  /-- The positions of the decimal point, relative to the first digit, that are written without an
  exponent; `none` writes every number so. -/
  positional : Option (Int × Int)
  /-- Whether an integer value keeps a final `.0`. -/
  pointZero : Bool
  /-- Whether a positive exponent carries a `+`. -/
  exponentPlus : Bool
  /-- The text of infinity without its sign. -/
  infinity : String
  /-- The text of a NaN. -/
  nan : String

namespace DecimalLayout

/-- Digits with the point after the first `point` of them, filled up with zeros. -/
private def positionalText (layout : DecimalLayout) (digits : List Char) (point : Int) : String :=
  if point ≤ 0 then
    "0." ++ String.ofList (List.replicate (-point).toNat '0' ++ digits)
  else
    let whole := digits.take point.toNat
    let fraction := digits.drop point.toNat
    let filled := whole ++ List.replicate (point.toNat - whole.length) '0'
    if fraction.isEmpty then String.ofList filled ++ (if layout.pointZero then ".0" else "")
    else String.ofList filled ++ "." ++ String.ofList fraction

/-- One digit, the others behind a point, and an exponent. -/
private def exponentText (layout : DecimalLayout) (digits : List Char) (point : Int) : String :=
  let rest := digits.drop 1
  let exponent := point - 1
  let sign := if layout.exponentPlus ∧ 0 ≤ exponent then "+" else ""
  String.ofList (digits.take 1) ++ (if rest.isEmpty then "" else "." ++ String.ofList rest)
    ++ "e" ++ sign ++ toString exponent

def text (layout : DecimalLayout) (x : Binary64) : String :=
  let sign := if x.isNegative then "-" else ""
  if x.isNaN then layout.nan
  else if !x.isFinite then sign ++ layout.infinity
  else
    let decimal := x.shortest
    let digits := Nat.toDigits 10 decimal.digits
    let point := if decimal.digits = 0 then 1 else decimal.exponent + digits.length
    let isPositional := match layout.positional with
      | none => true
      | some (least, greatest) => least ≤ point ∧ point ≤ greatest
    sign ++ (if isPositional then layout.positionalText digits point
      else layout.exponentText digits point)

/-- Plain decimal notation: no exponent, and no fraction for an integer value. -/
def plain : DecimalLayout := ⟨none, false, false, "inf", "NaN"⟩

/-- Whether a text has no other characters than numbers in decimal notation have. -/
def IsNumeral (text : String) : Prop :=
  ∀ c ∈ text.toList, c.isDigit = true ∨ c = '+' ∨ c = '-' ∨ c = '.' ∨ c = 'e'

instance (text : String) : Decidable (IsNumeral text) := List.decidableBAll _ _

theorem IsNumeral.append {front back : String} (hfront : IsNumeral front)
    (hback : IsNumeral back) : IsNumeral (front ++ back) := by
  intro c hc
  rw [String.toList_append, List.mem_append] at hc
  exact hc.elim (hfront c) (hback c)

theorem isNumeral_ofList {digits : List Char} (h : ∀ c ∈ digits, c.isDigit = true) :
    IsNumeral (String.ofList digits) := fun c hc =>
  .inl (h c (by rwa [String.toList_ofList] at hc))

private theorem isDigit_toDigits (n : Nat) : ∀ c ∈ Nat.toDigits 10 n, c.isDigit = true :=
  fun _ hc => Nat.isDigit_of_mem_toDigits (by decide) (by decide) hc

theorem isNumeral_toString (i : Int) : IsNumeral (toString i) := by
  cases i with
  | ofNat n => exact isNumeral_ofList (isDigit_toDigits n)
  | negSucc n =>
    exact .append (by decide : IsNumeral "-") (isNumeral_ofList (isDigit_toDigits (n + 1)))

private theorem isNumeral_positionalText (layout : DecimalLayout) {digits : List Char}
    (h : ∀ c ∈ digits, c.isDigit = true) (point : Int) :
    IsNumeral (layout.positionalText digits point) := by
  have hzeros (n : Nat) : ∀ c ∈ List.replicate n '0', c.isDigit = true := fun c hc =>
    List.eq_of_mem_replicate hc ▸ rfl
  have hwhole (n : Nat) : IsNumeral (String.ofList
      (digits.take point.toNat ++ List.replicate n '0')) :=
    isNumeral_ofList (List.forall_mem_append.mpr
      ⟨fun c hc => h c (List.mem_of_mem_take hc), hzeros n⟩)
  unfold positionalText
  split
  · exact .append (by decide : IsNumeral "0.")
      (isNumeral_ofList (List.forall_mem_append.mpr ⟨hzeros _, h⟩))
  · dsimp only
    split
    · refine (hwhole _).append ?_
      split
      · decide
      · decide
    · exact ((hwhole _).append (by decide : IsNumeral ".")).append
        (isNumeral_ofList fun c hc => h c (List.mem_of_mem_drop hc))

private theorem isNumeral_exponentText (layout : DecimalLayout) {digits : List Char}
    (h : ∀ c ∈ digits, c.isDigit = true) (point : Int) :
    IsNumeral (layout.exponentText digits point) := by
  have hfirst : IsNumeral (String.ofList (digits.take 1)) :=
    isNumeral_ofList fun c hc => h c (List.mem_of_mem_take hc)
  have hrest : IsNumeral (String.ofList (digits.drop 1)) :=
    isNumeral_ofList fun c hc => h c (List.mem_of_mem_drop hc)
  have hfraction : IsNumeral
      (if (digits.drop 1).isEmpty then "" else "." ++ String.ofList (digits.drop 1)) := by
    split
    · decide
    · exact .append (by decide : IsNumeral ".") hrest
  have hsign : IsNumeral (if layout.exponentPlus ∧ 0 ≤ point - 1 then "+" else "") := by
    split
    · decide
    · decide
  exact (((hfirst.append hfraction).append (by decide : IsNumeral "e")).append hsign).append
    (isNumeral_toString _)

/-- The text of a finite number is a numeral, whatever its layout. -/
theorem isNumeral_text (layout : DecimalLayout) {x : Binary64} (h : x.isFinite = true) :
    IsNumeral (layout.text x) := by
  have hnan : x.isNaN = false := by
    have hexponent : (x.exponentField == 2047) = false := by
      simpa [Binary64.isFinite] using h
    rw [Binary64.isNaN, hexponent, Bool.false_and]
  have hdigits := isDigit_toDigits x.shortest.digits
  have hsign : IsNumeral (if x.isNegative then "-" else "") := by
    split
    · decide
    · decide
  have hunsigned (isPositional : Bool) (point : Int) : IsNumeral
      (if isPositional then layout.positionalText (Nat.toDigits 10 x.shortest.digits) point
        else layout.exponentText (Nat.toDigits 10 x.shortest.digits) point) := by
    split
    · exact isNumeral_positionalText layout hdigits point
    · exact isNumeral_exponentText layout hdigits point
  rw [text]
  simp only [hnan, h, Bool.false_eq_true, if_false, Bool.not_true]
  exact hsign.append (hunsigned _ _)

end DecimalLayout

/-- The two-place decimal text of `num / den`, rounded half to even. -/
def twoPlaces (num den : Nat) : String :=
  let hundredths := Binary64.roundHalfEven (num * 100) den
  let fraction := hundredths % 100
  toString (hundredths / 100) ++ "." ++ (if fraction < 10 then "0" else "") ++ toString fraction

end SearchQuery
