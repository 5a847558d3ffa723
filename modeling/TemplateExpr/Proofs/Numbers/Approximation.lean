/-
# Approximations of binary64 numbers

The decimal that a number counts as beside an integer keeps the order of the numbers, and no
integer stands between the number and the decimal.  Turning binary places into decimal ones loses
too little to pass the next smaller number, and all later steps keep the order.

Main statements:
* `approximation_mono`: the approximations are in the order of the numbers;
* `intCast_le_approximation`, `approximation_le_intCast`: no integer is passed.
-/
import Mathlib.Algebra.Order.Ring.Pow
import TemplateExpr.Proofs.Numbers.Scaled

namespace TemplateExpr

namespace Binary64

open Scaled

/-! ## Without the sign -/

/-- The approximation of the number without its sign. -/
def absApproximation (x : Binary64) : ℚ :=
  (approximate (x.significand <<< (x.unit - 1074)) (1074 - x.unit)).toRat

theorem toRat_approximation (x : Binary64) :
    x.approximation.toRat = if x.negative then -x.absApproximation else x.absApproximation := by
  rw [absApproximation, approximation, Decimal.toRat, Decimal.signed, Scaled.toRat]
  dsimp only
  split
  · push_cast
    ring
  · push_cast
    rfl

/-- The number with its binary places behind the point. -/
theorem absRat_eq (x : Binary64) :
    x.absRat = (x.significand <<< (x.unit - 1074) : Nat) / 2 ^ (1074 - x.unit) := by
  have hplaces : x.unit + (1074 - x.unit) = x.unit - 1074 + 1074 := by omega
  have hpow : 2 ^ x.unit * 2 ^ (1074 - x.unit) = 2 ^ (x.unit - 1074) * unitsInOne := by
    rw [unitsInOne, ← pow_add, ← pow_add, hplaces]
  rw [absRat, div_eq_div_iff unitsInOne_pos.ne' (by positivity), magnitude_eq, Nat.shiftLeft_eq]
  have hprod := congrArg (fun n => x.significand * n) hpow
  simp only [← Nat.mul_assoc] at hprod
  exact_mod_cast hprod

theorem absApproximation_nonneg (x : Binary64) : 0 ≤ x.absApproximation := toRat_nonneg _

/-- An integer below a number is below its approximation. -/
theorem intCast_le_absApproximation {z : Int} {x : Binary64} (h : (z : ℚ) ≤ x.absRat) :
    (z : ℚ) ≤ x.absApproximation := by
  rcases le_total z 0 with hz | hz
  · exact (Int.cast_nonpos.2 hz).trans (absApproximation_nonneg x)
  · lift z to Nat using hz
    rw [absRat_eq] at h
    exact natCast_le_toRat_approximate h

/-- An integer above a number is above its approximation. -/
theorem absApproximation_le_intCast {z : Int} {x : Binary64} (h : x.absRat ≤ z) :
    x.absApproximation ≤ z := by
  have hz : 0 ≤ z := Int.cast_nonneg_iff.1 ((absRat_nonneg x).trans h)
  lift z to Nat using hz
  rw [absRat_eq] at h
  exact toRat_approximate_le_natCast h

theorem absApproximation_eq_zero {x : Binary64} (h : x.absRat = 0) : x.absApproximation = 0 := by
  have hle : x.absApproximation ≤ (0 : Int) :=
    absApproximation_le_intCast (by rw [h, Int.cast_zero])
  rw [Int.cast_zero] at hle
  exact le_antisymm hle (absApproximation_nonneg x)

/-- All binary places together lose less than the last bit of a significand. -/
theorem lost_le_kept {n : Nat} (h : n ≤ 1074) : 1 - 1 / 2 ^ 53 ≤ kept ^ n := by
  have hbernoulli := one_add_mul_le_pow (a := (-(5 / 2 ^ 96) : ℚ)) (by norm_num) n
  have hn : (n : ℚ) ≤ 1074 := by exact_mod_cast h
  calc (1 - 1 / 2 ^ 53 : ℚ) ≤ 1 + 1074 * -(5 / 2 ^ 96) := by norm_num
    _ ≤ 1 + n * -(5 / 2 ^ 96) := by linarith
    _ ≤ (1 + -(5 / 2 ^ 96)) ^ n := hbernoulli
    _ = kept ^ n := by rw [kept, ← sub_eq_add_neg]

theorem absApproximation_mono {x y : Binary64} (h : x.magnitude ≤ y.magnitude) :
    x.absApproximation ≤ y.absApproximation := by
  rcases h.eq_or_lt with h | h
  · obtain ⟨hsignificand, hunit⟩ := eq_of_magnitude_eq h
    rw [absApproximation, absApproximation, hsignificand, hunit]
  · refine toRat_approximate_mono ?_
    have hspaced : (2 ^ 53 * x.magnitude : ℚ) ≤ (2 ^ 53 - 1) * y.magnitude := by
      have hnat : 2 ^ 53 * x.magnitude ≤ (2 ^ 53 - 1) * y.magnitude := magnitude_spaced h
      have hcast : ((2 ^ 53 - 1 : Nat) : ℚ) = 2 ^ 53 - 1 := by norm_num
      rw [← hcast]
      exact_mod_cast hnat
    have hbelow : x.absRat ≤ (1 - 1 / 2 ^ 53) * y.absRat := by
      rw [absRat, absRat, ← mul_div_assoc, div_le_div_iff_of_pos_right unitsInOne_pos]
      linarith
    calc _ ≤ x.absRat := by
          rw [absRat_eq]
          exact toRat_fromBinaryPlaces_le _ _
      _ ≤ (1 - 1 / 2 ^ 53) * y.absRat := hbelow
      _ ≤ kept ^ (1074 - y.unit) * y.absRat := by
          gcongr
          · exact absRat_nonneg y
          · exact lost_le_kept (Nat.sub_le _ _)
      _ ≤ _ := by
          rw [absRat_eq]
          exact le_toRat_fromBinaryPlaces _ _

/-! ## With the sign -/

/-- The approximations are in the order of the numbers. -/
theorem approximation_mono {x y : Binary64} (h : x.toRat ≤ y.toRat) :
    x.approximation.toRat ≤ y.approximation.toRat := by
  have habs : ∀ {x y : Binary64}, x.absRat ≤ y.absRat →
      x.absApproximation ≤ y.absApproximation := fun {x y} hle => by
    rw [absRat, absRat, div_le_div_iff_of_pos_right unitsInOne_pos, Nat.cast_le] at hle
    exact absApproximation_mono hle
  have hx := absRat_nonneg x
  have hy := absRat_nonneg y
  rw [toRat_eq_ite, toRat_eq_ite] at h
  rw [toRat_approximation, toRat_approximation]
  cases hnegx : x.negative <;> cases hnegy : y.negative <;>
    simp only [hnegx, hnegy, if_true, Bool.false_eq_true, if_false] at h ⊢
  · exact habs h
  · -- of a number and one below zero in this order both are zero
    rw [absApproximation_eq_zero (by linarith), absApproximation_eq_zero (by linarith), neg_zero]
  · exact (neg_nonpos.2 (absApproximation_nonneg x)).trans (absApproximation_nonneg y)
  · exact neg_le_neg (habs (neg_le_neg_iff.1 h))

/-- An integer that is no more than a number is no more than its approximation. -/
theorem intCast_le_approximation {z : Int} {x : Binary64} (h : (z : ℚ) ≤ x.toRat) :
    (z : ℚ) ≤ x.approximation.toRat := by
  rw [toRat_eq_ite] at h
  rw [toRat_approximation]
  cases hneg : x.negative <;> simp only [hneg, if_true, Bool.false_eq_true, if_false] at h ⊢
  · exact intCast_le_absApproximation h
  · rw [le_neg, ← Int.cast_neg] at h ⊢
    exact absApproximation_le_intCast h

/-- An integer that is no less than a number is no less than its approximation. -/
theorem approximation_le_intCast {z : Int} {x : Binary64} (h : x.toRat ≤ z) :
    x.approximation.toRat ≤ z := by
  rw [toRat_eq_ite] at h
  rw [toRat_approximation]
  cases hneg : x.negative <;> simp only [hneg, if_true, Bool.false_eq_true, if_false] at h ⊢
  · exact absApproximation_le_intCast h
  · rw [neg_le, ← Int.cast_neg] at h ⊢
    exact intCast_le_absApproximation h

end Binary64

end TemplateExpr
