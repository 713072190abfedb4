import SearchQuery.Number.Binary64
/-!
# Finite numbers

Whole numbers of up to sixty-four bits are far from the largest floating-point number, so they round
to finite ones.
-/

namespace SearchQuery

namespace Binary64

theorem isFinite_ofMagnitude (negative : Bool) {magnitude : Nat} (h : magnitude < 2047 * 2 ^ 52) :
    (ofMagnitude negative magnitude).isFinite = true := by
  have hbits : (ofMagnitude negative magnitude).bits.toNat =
      (if negative then 2 ^ 63 else 0) + magnitude := by
    rw [ofMagnitude, Nat.min_eq_left (Nat.le_of_lt h), UInt64.toNat_ofNat']
    split <;> omega
  simp only [isFinite, exponentField, hbits, bne_iff_ne, ne_eq]
  split <;> omega

theorem roundHalfEven_le (num den : Nat) : roundHalfEven num den ≤ num / den + 1 := by
  simp only [roundHalfEven]
  split <;> omega

/-- In units of at least `2 ^ (log2 n - 53)` a number has at most fifty-four bits. -/
theorem quotient_lt {n : Nat} {unit : Int} (hunit : (n.log2 : Int) - 53 ≤ unit) :
    n * 2 ^ (-unit).toNat / (1 * 2 ^ unit.toNat) < 2 ^ 54 := by
  have hlog : n < 2 ^ (n.log2 + 1) := Nat.lt_log2_self
  have hexponent : n.log2 + 1 + (-unit).toNat ≤ 54 + unit.toNat := by omega
  rw [Nat.one_mul, Nat.div_lt_iff_lt_mul (Nat.two_pow_pos _)]
  calc n * 2 ^ (-unit).toNat
      < 2 ^ (n.log2 + 1) * 2 ^ (-unit).toNat := Nat.mul_lt_mul_of_pos_right hlog (Nat.two_pow_pos _)
    _ = 2 ^ (n.log2 + 1 + (-unit).toNat) := (Nat.pow_add ..).symm
    _ ≤ 2 ^ (54 + unit.toNat) := Nat.pow_le_pow_right (by decide) hexponent
    _ = 2 ^ 54 * 2 ^ unit.toNat := Nat.pow_add ..

theorem isFinite_ofRatio_one (negative : Bool) {n : Nat} (h : n < 2 ^ 64) :
    (ofRatio negative n 1).isFinite = true := by
  simp only [ofRatio]
  split
  · exact isFinite_ofMagnitude negative (by decide)
  · next hzero =>
    have hn : n ≠ 0 := fun hn => hzero (.inl hn)
    have hlog : n.log2 < 64 := (Nat.log2_lt hn).mpr h
    have hone : (Nat.log2 1 : Int) = 0 := rfl
    -- whichever unit is taken, it lies between these bounds
    have hfinite : ∀ unit : Int, (n.log2 : Int) - 53 ≤ unit → unit ≤ 11 →
        (ofMagnitude negative ((unit + 1074).toNat * 2 ^ 52 + roundHalfEven
          (n * 2 ^ (-unit).toNat) (1 * 2 ^ unit.toNat))).isFinite = true := by
      intro unit hlow hhigh
      have hquotient := quotient_lt hlow
      have hrounded := roundHalfEven_le (n * 2 ^ (-unit).toNat) (1 * 2 ^ unit.toNat)
      apply isFinite_ofMagnitude
      omega
    apply hfinite
    · split <;> omega
    · split <;> omega

theorem isFinite_ofInt {i : Int} (hlow : -(2 ^ 63) ≤ i) (hhigh : i < 2 ^ 64) :
    (ofInt i).isFinite = true := by
  have hbits : i.natAbs < 2 ^ 64 := by omega
  exact isFinite_ofRatio_one _ hbits

end Binary64

end SearchQuery
