/-
# Numbers as rationals

Decimals and binary64 numbers are rationals, and their comparisons are those of the rationals.  An
infinity is read as the power of two above all finite numbers, which lies beyond all integers of
64 bits.

Main statements:
* `Decimal.compare_eq_compare`: two decimals compare as rationals;
* `magnitude_lt_of_unit_lt`, `magnitude_spaced`: neighbouring numbers are not too near.
-/
import Mathlib.Algebra.Order.Field.Basic
import Mathlib.Data.Rat.Cast.Order
import Mathlib.Tactic.FieldSimp
import Mathlib.Tactic.Linarith
import Mathlib.Tactic.NormNum
import Mathlib.Tactic.Positivity
import Mathlib.Tactic.Ring
import TemplateExpr.Binary64.Approximation

namespace TemplateExpr

/-- Two comparisons agree if they agree on what is less. -/
theorem compare_eq_compare_of_lt_iff {α β : Type} [LinearOrder α] [LinearOrder β] {a b : α}
    {c d : β} (h : a < b ↔ c < d) (h' : b < a ↔ d < c) : compare a b = compare c d := by
  rcases lt_trichotomy c d with hcd | hcd | hcd
  · rw [compare_lt_iff_lt.2 hcd, compare_lt_iff_lt.2 (h.2 hcd)]
  · have hab : a = b := le_antisymm (not_lt.1 fun hlt => (h'.1 hlt).ne' hcd)
      (not_lt.1 fun hlt => (h.1 hlt).ne hcd)
    rw [compare_eq_iff_eq.2 hcd, compare_eq_iff_eq.2 hab]
  · rw [compare_gt_iff_gt.2 hcd, compare_gt_iff_gt.2 (h'.2 hcd)]

/-- Integers are ordered as rationals in the same way. -/
theorem compare_intCast (m n : Int) : compare (m : ℚ) n = compare m n :=
  compare_eq_compare_of_lt_iff Int.cast_lt Int.cast_lt

/-! ## Decimals -/

/-- A power of ten as a rational. -/
theorem cast_tenPow (n : Nat) : (tenPow n : ℚ) = 10 ^ n := by
  induction n with
  | zero => simp [tenPow_zero]
  | succ n ih => rw [tenPow_succ, Nat.cast_mul, ih, pow_succ, Nat.cast_ofNat]

namespace Decimal

/-- The decimal as a rational. -/
def toRat (d : Decimal) : ℚ := d.signed / 10 ^ d.places

/-- An integer stays what it is as a decimal. -/
theorem toRat_ofInt (n : Int) : (ofInt n).toRat = n := by
  show ((ofInt n).signed : ℚ) / 10 ^ 0 = n
  rw [signed_ofInt, pow_zero, div_one]

/-- Decimals are ordered by their coefficients over common places. -/
theorem toRat_lt_toRat_iff (d e : Decimal) :
    d.toRat < e.toRat ↔ d.signed * tenPow e.places < e.signed * tenPow d.places := by
  have hd : (0 : ℚ) < 10 ^ d.places := by positivity
  have he : (0 : ℚ) < 10 ^ e.places := by positivity
  rw [toRat, toRat, div_lt_div_iff₀ hd he, ← cast_tenPow, ← cast_tenPow]
  exact_mod_cast Iff.rfl

/-- Two decimals compare as rationals. -/
theorem compare_eq_compare (d e : Decimal) : d.compare e = Ord.compare d.toRat e.toRat :=
  compare_eq_compare_of_lt_iff (toRat_lt_toRat_iff d e).symm (toRat_lt_toRat_iff e d).symm

end Decimal

namespace Binary64

/-! ## Binary numbers -/

/-- The number of units in one. -/
def unitsInOne : Nat := 2 ^ 1074

/-- There is a unit in one. -/
theorem unitsInOne_pos : (0 : ℚ) < unitsInOne := by
  rw [unitsInOne, Nat.cast_pow]
  positivity

/-- The number as a rational. -/
def toRat (x : Binary64) : ℚ := x.scaled / unitsInOne

/-- The number without its sign as a rational. -/
def absRat (x : Binary64) : ℚ := x.magnitude / unitsInOne

/-- A number is its absolute value with its sign. -/
theorem toRat_eq_ite (x : Binary64) : x.toRat = if x.negative then -x.absRat else x.absRat := by
  rw [toRat, absRat, scaled]
  split
  · push_cast
    ring
  · push_cast
    rfl

/-- The absolute value does not lie below zero. -/
theorem absRat_nonneg (x : Binary64) : 0 ≤ x.absRat :=
  div_nonneg (Nat.cast_nonneg _) unitsInOne_pos.le

/-- The absolute value is the number without its sign. -/
theorem abs_toRat (x : Binary64) : |x.toRat| = x.absRat := by
  rw [toRat_eq_ite]
  split
  · rw [abs_neg, abs_of_nonneg x.absRat_nonneg]
  · exact abs_of_nonneg x.absRat_nonneg

/-- Binary numbers are ordered by their units. -/
theorem toRat_lt_toRat_iff (x y : Binary64) : x.toRat < y.toRat ↔ x.scaled < y.scaled := by
  rw [toRat, toRat, div_lt_div_iff_of_pos_right unitsInOne_pos, Int.cast_lt]

/-- A binary number is an integer if its units are those of the integer. -/
theorem toRat_eq_intCast_iff (x : Binary64) (z : Int) :
    x.toRat = z ↔ x.scaled = z * unitsInOne := by
  rw [toRat, div_eq_iff unitsInOne_pos.ne']
  exact_mod_cast Iff.rfl

/-! ## The distance of neighbours -/

/-- The magnitude is the significand in its places. -/
theorem magnitude_eq (x : Binary64) : x.magnitude = x.significand * 2 ^ x.unit := by
  rw [magnitude, Nat.shiftLeft_eq]

/-- The leading bit has fifty-two bits behind it. -/
theorem leadingBit_eq : leadingBit = 2 ^ 52 := rfl

/-- A number that is not among the smallest has its leading bit. -/
theorem leadingBit_le_significand {x : Binary64} (h : 0 < x.unit) :
    leadingBit ≤ x.significand := by
  unfold unit at h
  unfold significand
  rw [if_neg (by omega)]
  exact Nat.le_add_right _ _

/-- A number of a lower binade has no more than the largest significand there. -/
theorem magnitude_lt_of_unit_lt {x y : Binary64} (h : x.unit < y.unit) :
    2 ^ 53 * x.magnitude ≤ (2 ^ 53 - 1) * y.magnitude ∧ x.magnitude < y.magnitude := by
  have hx : x.significand ≤ 2 ^ 53 - 1 := by
    have := x.significand_lt
    rw [leadingBit_eq] at this
    omega
  have hy : 2 ^ 52 ≤ y.significand := leadingBit_le_significand (by omega)
  have hpow : 2 * 2 ^ x.unit ≤ 2 ^ y.unit := by
    rw [← Nat.pow_succ']
    exact Nat.pow_le_pow_right (by decide) h
  have hpos : 0 < 2 ^ x.unit := Nat.two_pow_pos _
  have hlow : x.magnitude ≤ (2 ^ 53 - 1) * 2 ^ x.unit := by
    rw [magnitude_eq]
    exact Nat.mul_le_mul_right _ hx
  have hhigh : 2 ^ 53 * 2 ^ x.unit ≤ y.magnitude := by
    rw [magnitude_eq]
    calc 2 ^ 53 * 2 ^ x.unit = 2 ^ 52 * (2 * 2 ^ x.unit) := by ring
      _ ≤ y.significand * 2 ^ y.unit := Nat.mul_le_mul hy hpow
  constructor
  · calc 2 ^ 53 * x.magnitude ≤ 2 ^ 53 * ((2 ^ 53 - 1) * 2 ^ x.unit) := Nat.mul_le_mul_left _ hlow
      _ = (2 ^ 53 - 1) * (2 ^ 53 * 2 ^ x.unit) := by ring
      _ ≤ (2 ^ 53 - 1) * y.magnitude := Nat.mul_le_mul_left _ hhigh
  · omega

/-- Of two numbers the smaller one is smaller by at least the last bit of the larger one. -/
theorem magnitude_spaced {x y : Binary64} (h : x.magnitude < y.magnitude) :
    2 ^ 53 * x.magnitude ≤ (2 ^ 53 - 1) * y.magnitude := by
  -- below the binade of `y`, in it, or above it
  rcases lt_trichotomy x.unit y.unit with hunit | hunit | hunit
  · exact (magnitude_lt_of_unit_lt hunit).1
  · have hy : y.significand < 2 ^ 53 := y.significand_lt
    have hlt : x.significand < y.significand := by
      rw [magnitude_eq, magnitude_eq, hunit] at h
      exact Nat.lt_of_mul_lt_mul_right h
    rw [magnitude_eq, magnitude_eq, hunit, ← Nat.mul_assoc, ← Nat.mul_assoc]
    exact Nat.mul_le_mul_right _ (by omega)
  · have := (magnitude_lt_of_unit_lt hunit).2
    omega

/-- Numbers of the same magnitude differ in no more than the sign. -/
theorem eq_of_magnitude_eq {x y : Binary64} (h : x.magnitude = y.magnitude) :
    x.significand = y.significand ∧ x.unit = y.unit := by
  rcases lt_trichotomy x.unit y.unit with hunit | hunit | hunit
  · have := (magnitude_lt_of_unit_lt hunit).2
    omega
  · rw [magnitude_eq, magnitude_eq, hunit] at h
    exact ⟨Nat.eq_of_mul_eq_mul_right (Nat.two_pow_pos _) h, hunit⟩
  · have := (magnitude_lt_of_unit_lt hunit).2
    omega

end Binary64

end TemplateExpr
