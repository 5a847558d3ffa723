/-
# Numbers of two kinds

An integer or a binary64 number that is no NaN has an exact value and a rough one, which differ for
fractions only.  Two binary64 numbers are compared by their exact values, all other pairs by the
rough ones.  What carries all laws of the comparison is that the rough values are in the order of
the exact ones and that no integer stands between them.

Main statements:
* `compareInt?_eq_compare`: an integer of 64 bits and a number compare by their rough values;
* `rough_mono`: the rough values are in the order of the exact ones;
* `compare_lt_trans`, `compare_eq_trans_iff`: which laws of an order hold;
* `compare_integer`: how far the comparison with an integer can be off.
-/
import TemplateExpr.Proofs.Numbers.Approximation
import TemplateExpr.Proofs.Numbers.Nearest

namespace TemplateExpr

namespace Binary64

/-! ## Integers beside large numbers -/

/-- An infinity has the leading bit alone in the highest place. -/
theorem fields_of_infinite {x : Binary64} (hnan : x.isNaN = false) (hfinite : x.isFinite = false) :
    x.significand = leadingBit ∧ x.unit = 2046 := by
  have hexponent : x.exponent = topExponent := by simpa [isFinite] using hfinite
  have hfraction : x.fraction = 0 := by simpa [isNaN, hexponent] using hnan
  constructor
  · rw [significand, if_neg (by rw [hexponent]; decide), hfraction, Nat.add_zero]
  · rw [unit, hexponent]
    rfl

/-- Two numbers compare as rationals. -/
theorem compare?_eq_compare {x y : Binary64} (hx : x.isNaN = false) (hy : y.isNaN = false) :
    compare? x y = some (compare x.toRat y.toRat) := by
  rw [compare?, if_neg (by simp [hx, hy]), Option.some_inj]
  exact compare_eq_compare_of_lt_iff (toRat_lt_toRat_iff x y).symm (toRat_lt_toRat_iff y x).symm

/-- A number for which no decimal stands lies beyond all words. -/
theorem le_absRat_of_decimal?_eq_none {x : Binary64} (hnan : x.isNaN = false)
    (h : x.decimal? = none) : ((2 ^ 96 : Int) : ℚ) ≤ x.absRat := by
  have hmagnitude : 2 ^ 96 * unitsInOne ≤ x.magnitude := by
    cases hfinite : x.isFinite with
    | true =>
      rw [← Nat.one_shiftLeft, ← shiftLeft_eq_mul_unitsInOne]
      apply not_lt.1
      intro hlt
      rw [decimal?_of_lt hfinite hlt] at h
      cases h
    | false =>
      obtain ⟨hsignificand, hunit⟩ := fields_of_infinite hnan hfinite
      rw [magnitude_eq, hsignificand, leadingBit_eq, unitsInOne, ← pow_add, ← pow_add]
      exact pow_le_pow_right₀ one_le_two (by omega)
  rw [absRat, le_div_iff₀ unitsInOne_pos]
  exact_mod_cast hmagnitude

/-- Beside a number that is farther from zero, only the sign of the latter counts. -/
theorem compare_signed {q a : ℚ} (h : |q| < a) (negative : Bool) :
    compare q (if negative then -a else a) = if negative then .gt else .lt := by
  obtain ⟨hlow, hhigh⟩ := abs_lt.1 h
  cases negative with
  | true =>
    rw [if_pos rfl, if_pos rfl, compare_gt_iff_gt]
    exact hlow
  | false =>
    rw [if_neg (by simp), if_neg (by simp), compare_lt_iff_lt]
    exact hhigh

/-- An integer of 64 bits lies on one side of a number for which no decimal stands. -/
theorem compareInt?_of_decimal?_eq_none (n : Int64) {x : Binary64} (hnan : x.isNaN = false)
    (h : x.decimal? = none) : compareInt? n.toInt x = some (if x.negative then .gt else .lt) := by
  obtain ⟨hfinite, hle⟩ := absRat_ofInt_le n
  have hbeyond := le_absRat_of_decimal?_eq_none hnan h
  push_cast at hbeyond
  have habs : |(ofInt n.toInt).toRat| < x.absRat := by
    rw [abs_toRat]
    linarith
  rw [compareInt?, h]
  show compare? (ofInt n.toInt) x = _
  rw [compare?_eq_compare (isNaN_of_isFinite hfinite) hnan, toRat_eq_ite x, compare_signed habs]

/-- An integer of 64 bits and a number compare by the approximation of the number. -/
theorem compareInt?_eq_compare (n : Int64) {x : Binary64} (hnan : x.isNaN = false) :
    compareInt? n.toInt x = some (compare (n.toInt : ℚ) x.approximation.toRat) := by
  by_cases h : x.decimal? = none
  · have hbeyond := intCast_le_absApproximation (le_absRat_of_decimal?_eq_none hnan h)
    have hlow : (-2 ^ 63 : ℚ) ≤ n.toInt := by exact_mod_cast n.le_toInt
    have hhigh : (n.toInt : ℚ) < 2 ^ 63 := by exact_mod_cast n.toInt_lt
    push_cast at hbeyond
    have habs : |(n.toInt : ℚ)| < x.absApproximation := abs_lt.2 (by constructor <;> linarith)
    rw [compareInt?_of_decimal?_eq_none n hnan h, toRat_approximation, compare_signed habs]
  · obtain ⟨d, hd⟩ := Option.ne_none_iff_exists'.1 h
    obtain rfl := eq_approximation_of_decimal? hd
    rw [compareInt?, hd]
    show some ((Decimal.ofInt n.toInt).compare x.approximation) = _
    rw [Decimal.compare_eq_compare, Decimal.toRat_ofInt]

/-- Two numbers are the same if their exact values are. -/
theorem sameNumber_iff {x y : Binary64} (hx : x.isNaN = false) (hy : y.isNaN = false) :
    sameNumber x y = true ↔ x.toRat = y.toRat := by
  rw [sameNumber, compare?_eq_compare hx hy, beq_iff_eq, Option.some_inj, compare_eq_iff_eq]

end Binary64

/-! ## Exact and rough values -/

/-- A number that has a place in the order of numbers. -/
inductive Number where
  | integer (n : Int64)
  | float (x : Binary64) (ordered : x.isNaN = false)

namespace Number

/-- The number is a binary64 number. -/
def isFloat : Number → Bool
  | .integer _ => false
  | .float _ _ => true

/-- A number that is no binary64 number is an integer. -/
theorem exists_integer {p : Number} (h : p.isFloat = false) : ∃ n, p = .integer n := by
  cases p with
  | integer n => exact ⟨n, rfl⟩
  | float x ordered => cases h

/-- A binary64 number in the order of numbers is no NaN. -/
theorem exists_float {p : Number} (h : p.isFloat = true) : ∃ x ordered, p = .float x ordered := by
  cases p with
  | integer n => cases h
  | float x ordered => exact ⟨x, ordered, rfl⟩

/-- The exact value. -/
def exact : Number → ℚ
  | .integer n => n.toInt
  | .float x _ => x.toRat

/-- The value for the comparison with numbers of the other kind. -/
def rough : Number → ℚ
  | .integer n => n.toInt
  | .float x _ => x.approximation.toRat

/-- The order of two numbers: exact between two binary64 numbers, else by the rough values. -/
def compare (p q : Number) : Ordering :=
  if p.isFloat && q.isFloat then Ord.compare p.exact q.exact else Ord.compare p.rough q.rough

variable {p q r : Number}

/-- The rough value does not fall below an integer that the exact one reaches. -/
theorem intCast_le_rough {z : Int} (h : (z : ℚ) ≤ p.exact) : (z : ℚ) ≤ p.rough := by
  cases p with
  | integer n => exact h
  | float x ordered => exact Binary64.intCast_le_approximation h

/-- The rough value does not rise above an integer that the exact one does not pass. -/
theorem rough_le_intCast {z : Int} (h : p.exact ≤ z) : p.rough ≤ z := by
  cases p with
  | integer n => exact h
  | float x ordered => exact Binary64.approximation_le_intCast h

/-- Whole numbers are not rounded. -/
theorem rough_of_whole {z : Int} (h : p.exact = z) : p.rough = z :=
  le_antisymm (rough_le_intCast h.le) (intCast_le_rough h.ge)

/-- The rough values are in the order of the exact ones. -/
theorem rough_mono (h : p.exact ≤ q.exact) : p.rough ≤ q.rough := by
  cases p with
  | integer n => exact intCast_le_rough h
  | float x ordered =>
    cases q with
    | integer m => exact rough_le_intCast h
    | float y ordered => exact Binary64.approximation_mono h

/-- Numbers that differ roughly differ exactly, in the same order. -/
theorem exact_lt_of_rough_lt (h : p.rough < q.rough) : p.exact < q.exact :=
  lt_of_not_ge fun hle => h.not_ge (rough_mono hle)

/-- Two binary64 numbers are compared exactly. -/
theorem compare_of_floats (hp : p.isFloat = true) (hq : q.isFloat = true) :
    p.compare q = Ord.compare p.exact q.exact := by
  rw [compare, if_pos (by rw [hp, hq]; rfl)]

/-- Beside an integer numbers are compared roughly. -/
theorem compare_of_integer (h : p.isFloat = false ∨ q.isFloat = false) :
    p.compare q = Ord.compare p.rough q.rough := by
  rw [compare, if_neg]
  rcases h with h | h <;> simp [h]

/-- Which of the numbers comes first only turns the order around. -/
theorem compare_swap (p q : Number) : (p.compare q).swap = q.compare p := by
  unfold compare
  rw [Bool.and_comm]
  split
  · exact Std.OrientedOrd.eq_swap.symm
  · exact Std.OrientedOrd.eq_swap.symm

/-- Numbers that are less have no greater rough values. -/
theorem rough_le_of_compare_eq_lt (h : p.compare q = .lt) : p.rough ≤ q.rough := by
  unfold compare at h
  split at h
  · exact rough_mono (compare_lt_iff_lt.1 h).le
  · exact (compare_lt_iff_lt.1 h).le

/-- Numbers that compare as equal have the same rough value. -/
theorem rough_eq_of_compare_eq_eq (h : p.compare q = .eq) : p.rough = q.rough := by
  unfold compare at h
  split at h
  · have hexact := compare_eq_iff_eq.1 h
    exact le_antisymm (rough_mono hexact.le) (rough_mono hexact.ge)
  · exact compare_eq_iff_eq.1 h

/-! ## Laws -/

/-- To be less is transitive. -/
theorem compare_lt_trans (hpq : p.compare q = .lt) (hqr : q.compare r = .lt) :
    p.compare r = .lt := by
  have hpq' := rough_le_of_compare_eq_lt hpq
  have hqr' := rough_le_of_compare_eq_lt hqr
  cases hp : p.isFloat with
  | false =>
    rw [compare_of_integer (.inl hp), compare_lt_iff_lt] at hpq ⊢
    exact hpq.trans_le hqr'
  | true =>
    cases hr : r.isFloat with
    | false =>
      rw [compare_of_integer (.inr hr), compare_lt_iff_lt] at hqr ⊢
      exact hpq'.trans_lt hqr
    | true =>
      rw [compare_of_floats hp hr, compare_lt_iff_lt]
      cases hq : q.isFloat with
      | true =>
        rw [compare_of_floats hp hq, compare_lt_iff_lt] at hpq
        rw [compare_of_floats hq hr, compare_lt_iff_lt] at hqr
        exact hpq.trans hqr
      | false =>
        rw [compare_of_integer (.inr hq), compare_lt_iff_lt] at hpq
        exact exact_lt_of_rough_lt (hpq.trans_le hqr')

/-- To be equal is transitive, unless an integer is equal to two binary64 numbers that differ. -/
theorem compare_eq_trans_iff (hpq : p.compare q = .eq) (hqr : q.compare r = .eq) :
    p.compare r = .eq ↔
      (p.isFloat = true → q.isFloat = false → r.isFloat = true → p.exact = r.exact) := by
  have hrough := (rough_eq_of_compare_eq_eq hpq).trans (rough_eq_of_compare_eq_eq hqr)
  cases hp : p.isFloat with
  | false => simp [compare_of_integer (.inl hp), hrough]
  | true =>
    cases hr : r.isFloat with
    | false => simp [compare_of_integer (.inr hr), hrough]
    | true =>
      rw [compare_of_floats hp hr, compare_eq_iff_eq]
      cases hq : q.isFloat with
      | false => simp
      | true =>
        rw [compare_of_floats hp hq, compare_eq_iff_eq] at hpq
        rw [compare_of_floats hq hr, compare_eq_iff_eq] at hqr
        simp [hpq, hqr]

/-- The comparison with an integer does not turn the order round; what differs and counts as equal
is less than one apart; and a whole number is compared exactly. -/
theorem compare_integer (n : Int64) (q : Number) :
    ((n.toInt : ℚ) < q.exact → (integer n).compare q ≠ .gt) ∧
    (q.exact < n.toInt → (integer n).compare q ≠ .lt) ∧
    ((integer n).compare q = .eq → |(n.toInt : ℚ) - q.exact| < 1) ∧
    ∀ z : Int, q.exact = z → (integer n).compare q = Ord.compare n.toInt z := by
  have hcompare : (integer n).compare q = Ord.compare (n.toInt : ℚ) q.rough :=
    compare_of_integer (.inl rfl)
  rw [hcompare]
  refine ⟨fun h => ?below, fun h => ?above, fun h => ?equal, fun z hz => ?whole⟩
  case below =>
    rw [ne_eq, compare_gt_iff_gt, not_lt]
    exact intCast_le_rough h.le
  case above =>
    rw [ne_eq, compare_lt_iff_lt, not_lt]
    exact rough_le_intCast h.le
  case equal =>
    have hn : (n.toInt : ℚ) = q.rough := compare_eq_iff_eq.1 h
    have hlow : ¬ q.exact ≤ (n.toInt - 1 : Int) := fun hle => by
      have hrough := rough_le_intCast hle
      push_cast at hrough
      linarith
    have hhigh : ¬ ((n.toInt + 1 : Int) : ℚ) ≤ q.exact := fun hle => by
      have hrough := intCast_le_rough hle
      push_cast at hrough
      linarith
    push_cast at hlow hhigh
    rw [abs_sub_lt_iff]
    constructor <;> linarith
  case whole => rw [rough_of_whole hz, compare_intCast]

end Number

end TemplateExpr
