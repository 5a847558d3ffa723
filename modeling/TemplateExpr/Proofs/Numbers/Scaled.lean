/-
# Changes of places

What becomes of a number when its binary places are turned into decimal ones and when places are
dropped.  The first change is exact but for an odd coefficient that is too large to be multiplied,
which loses half a unit; so the number becomes less, by a small part of it at most, but no integer
is passed.  The second change keeps the order of all numbers, whatever their places are.

Main statements:
* `toRat_fromBinaryPlaces_le`, `le_toRat_fromBinaryPlaces`: how much the number becomes less;
* `natCast_le_toRat_fromBinaryPlaces`: no integer is passed;
* `toRat_approximate_mono`: dropping places keeps the order.
-/
import TemplateExpr.Proofs.Numbers.Exact

namespace TemplateExpr

namespace Binary64

namespace Scaled

/-- The number as a rational. -/
def toRat (s : Scaled) : ℚ := s.coefficient / 10 ^ s.places

/-- The numbers do not lie below zero. -/
theorem toRat_nonneg (s : Scaled) : 0 ≤ s.toRat := by
  rw [toRat]
  positivity

/-- Without places the number is its coefficient. -/
theorem toRat_whole (m : Nat) : toRat ⟨m, 0⟩ = m := by
  rw [toRat, pow_zero, div_one]

/-- With one number of places the coefficients decide. -/
theorem toRat_le_toRat_iff (m m' p : Nat) : toRat ⟨m, p⟩ ≤ toRat ⟨m', p⟩ ↔ m ≤ m' := by
  rw [toRat, toRat, div_le_div_iff_of_pos_right (by positivity), Nat.cast_le]

/-- A zero behind the last place changes nothing. -/
theorem toRat_shift (m p : Nat) : toRat ⟨m * 10, p + 1⟩ = toRat ⟨m, p⟩ := by
  rw [toRat, toRat, pow_succ]
  push_cast
  field_simp

/-! ## From binary to decimal places -/

/-- To multiply a number by five is to multiply its coefficient. -/
theorem five_mul_toRat (m p : Nat) : 5 * toRat ⟨m, p⟩ = toRat ⟨m * 5, p⟩ := by
  rw [toRat, toRat]
  push_cast
  ring

/-- A place more divides by ten, so that an even coefficient may be halved. -/
theorem five_mul_toRat_double (m p : Nat) : 5 * toRat ⟨2 * m, p + 1⟩ = toRat ⟨m, p⟩ := by
  rw [five_mul_toRat, show 2 * m * 5 = m * 10 by ring, toRat_shift]

/-- A binary place is turned into a decimal one without loss, or it takes the last bit of a
coefficient that is too large to be multiplied. -/
theorem fromBinaryPlace_cases (m p : Nat) :
    (fromBinaryPlace ⟨m, p + 1⟩).toRat = 5 * toRat ⟨m, p + 1⟩ ∨
      ∃ half, m = 2 * half + 1 ∧ 2 ^ 96 ≤ m * 5 ∧ fromBinaryPlace ⟨m, p + 1⟩ = ⟨half, p⟩ := by
  unfold fromBinaryPlace
  dsimp only
  split
  · rename_i heven
    obtain ⟨half, rfl⟩ : ∃ half, m = 2 * half := ⟨m / 2, by omega⟩
    left
    rw [five_mul_toRat_double, Nat.mul_div_cancel_left half (by decide), Nat.add_sub_cancel]
  · rename_i hodd
    split
    · left
      rw [five_mul_toRat]
    · rename_i hlarge
      rw [Nat.one_shiftLeft] at hlarge
      right
      exact ⟨m / 2, by omega, by omega, rfl⟩

/-- What every change of a binary place keeps holds after all of them. -/
theorem fromBinaryPlaces_induct {P : Nat → Scaled → Prop}
    (hstep : ∀ k m p, k ≤ p → P (k + 1) ⟨m, p + 1⟩ → P k (fromBinaryPlace ⟨m, p + 1⟩))
    {k : Nat} {s : Scaled} (hk : k ≤ s.places) (h : P k s) : P 0 (fromBinaryPlaces k s) := by
  induction k generalizing s with
  | zero => exact h
  | succ k ih =>
    obtain ⟨m, places⟩ := s
    obtain ⟨p, rfl⟩ : ∃ p, places = p + 1 := Nat.exists_eq_add_one.2 (Nat.zero_lt_of_lt hk)
    have hplaces : k ≤ (fromBinaryPlace ⟨m, p + 1⟩).places := by
      dsimp only at hk
      unfold fromBinaryPlace
      dsimp only
      split
      · dsimp only
        omega
      · split <;> dsimp only <;> omega
    exact ih hplaces (hstep k m p (Nat.le_of_succ_le_succ hk) h)

/-- The number with `n` binary places, of which as many decimal ones are made. -/
theorem five_pow_mul_toRat (m n : Nat) : 5 ^ n * toRat ⟨m, n⟩ = m / 2 ^ n := by
  rw [toRat, show (10 : ℚ) = 5 * 2 by norm_num, mul_pow]
  field_simp

/-- The number does not become more. -/
theorem toRat_fromBinaryPlaces_le (m n : Nat) :
    (fromBinaryPlaces n ⟨m, n⟩).toRat ≤ m / 2 ^ n := by
  -- with `k` binary places left, the number stands for `5 ^ k` times what it says
  have h := fromBinaryPlaces_induct (P := fun k s => 5 ^ k * s.toRat ≤ m / 2 ^ n) (k := n)
    (s := ⟨m, n⟩) ?step le_rfl (five_pow_mul_toRat m n).le
  case step =>
    intro k m' p _ h
    have hstep : (fromBinaryPlace ⟨m', p + 1⟩).toRat ≤ 5 * toRat ⟨m', p + 1⟩ := by
      rcases fromBinaryPlace_cases m' p with heq | ⟨half, rfl, -, heq⟩
      · exact heq.le
      · rw [heq, ← five_mul_toRat_double half p]
        have := (toRat_le_toRat_iff (2 * half) (2 * half + 1) (p + 1)).2 (by omega)
        linarith
    calc 5 ^ k * (fromBinaryPlace ⟨m', p + 1⟩).toRat
        ≤ 5 ^ k * (5 * toRat ⟨m', p + 1⟩) := by gcongr
      _ = 5 ^ (k + 1) * toRat ⟨m', p + 1⟩ := by ring
      _ ≤ m / 2 ^ n := h
  simpa using h

/-- What is left of a number when a bit of a large coefficient is taken. -/
def kept : ℚ := 1 - 5 / 2 ^ 96

/-- What is left does not lie below zero. -/
theorem kept_nonneg : 0 ≤ kept := by norm_num [kept]

/-- No more is left than there was. -/
theorem kept_le_one : kept ≤ 1 := by norm_num [kept]

/-- The number loses a small part at most with each place. -/
theorem le_toRat_fromBinaryPlaces (m n : Nat) :
    kept ^ n * (m / 2 ^ n) ≤ (fromBinaryPlaces n ⟨m, n⟩).toRat := by
  -- each of the `k` places left may still take its part, so the bound has `kept ^ k` in it
  have h := fromBinaryPlaces_induct
    (P := fun k s => kept ^ n * (m / 2 ^ n) ≤ kept ^ k * (5 ^ k * s.toRat)) (k := n)
    (s := ⟨m, n⟩) ?step le_rfl (by rw [five_pow_mul_toRat])
  case step =>
    intro k m' p _ h
    have hstep : kept * (5 * toRat ⟨m', p + 1⟩) ≤ (fromBinaryPlace ⟨m', p + 1⟩).toRat := by
      have hnonneg := toRat_nonneg ⟨m', p + 1⟩
      rcases fromBinaryPlace_cases m' p with heq | ⟨half, rfl, hlarge, heq⟩
      · rw [heq]
        exact mul_le_of_le_one_left (by linarith) kept_le_one
      · have hlarge' : (2 : ℚ) ^ 96 ≤ (2 * half + 1) * 5 := by exact_mod_cast hlarge
        have hcoefficient : kept * (2 * half + 1) ≤ 2 * half := by
          rw [kept]
          linarith
        rw [heq, ← five_mul_toRat_double half p, toRat, toRat]
        push_cast
        calc kept * (5 * ((2 * half + 1) / 10 ^ (p + 1)))
            = 5 * (kept * (2 * half + 1)) / 10 ^ (p + 1) := by ring
          _ ≤ 5 * (2 * half) / 10 ^ (p + 1) := by gcongr
          _ = 5 * (2 * half / 10 ^ (p + 1)) := by ring
    have hkept : 0 ≤ kept ^ k * 5 ^ k := mul_nonneg (pow_nonneg kept_nonneg k) (by positivity)
    calc kept ^ n * (m / 2 ^ n) ≤ kept ^ (k + 1) * (5 ^ (k + 1) * toRat ⟨m', p + 1⟩) := h
      _ = kept ^ k * 5 ^ k * (kept * (5 * toRat ⟨m', p + 1⟩)) := by ring
      _ ≤ kept ^ k * 5 ^ k * (fromBinaryPlace ⟨m', p + 1⟩).toRat := by gcongr
      _ = kept ^ k * (5 ^ k * (fromBinaryPlace ⟨m', p + 1⟩).toRat) := by ring
  simpa using h

/-- A number is compared with a multiple of another one by their coefficients. -/
theorem natCast_le_pow_mul_toRat_iff (N k m p : Nat) :
    (N : ℚ) ≤ 5 ^ k * toRat ⟨m, p⟩ ↔ N * 10 ^ p ≤ 5 ^ k * m := by
  rw [toRat, ← mul_div_assoc, le_div_iff₀ (by positivity)]
  exact_mod_cast Iff.rfl

/-- No integer is passed, since an integer has an even coefficient as long as there are binary
places left. -/
theorem natCast_le_toRat_fromBinaryPlaces {N m n : Nat} (hN : (N : ℚ) ≤ m / 2 ^ n) :
    (N : ℚ) ≤ (fromBinaryPlaces n ⟨m, n⟩).toRat := by
  have h := fromBinaryPlaces_induct (P := fun k s => (N : ℚ) ≤ 5 ^ k * s.toRat) (k := n)
    (s := ⟨m, n⟩) ?step le_rfl (by rwa [five_pow_mul_toRat])
  case step =>
    intro k m' p hk h
    rcases fromBinaryPlace_cases m' p with heq | ⟨half, rfl, -, heq⟩
    · rw [heq]
      calc (N : ℚ) ≤ 5 ^ (k + 1) * toRat ⟨m', p + 1⟩ := h
        _ = 5 ^ k * (5 * toRat ⟨m', p + 1⟩) := by ring
    · rw [heq, natCast_le_pow_mul_toRat_iff]
      rw [natCast_le_pow_mul_toRat_iff] at h
      obtain ⟨q, rfl⟩ := Nat.exists_eq_add_of_le hk
      have hpow : ∀ j, 10 ^ j = 5 ^ j * 2 ^ j := fun j => by rw [← Nat.mul_pow]
      -- an integer has a factor of two in each of the `k + 1` places left, an odd number has none
      have heven : 5 ^ (k + 1) * (2 * (N * 10 ^ q * 2 ^ k)) ≤ 5 ^ (k + 1) * (2 * half + 1) := by
        calc 5 ^ (k + 1) * (2 * (N * 10 ^ q * 2 ^ k))
            = N * (10 ^ q * (5 ^ (k + 1) * 2 ^ (k + 1))) := by ring
          _ = N * 10 ^ (k + q + 1) := by rw [← hpow]; ring
          _ ≤ 5 ^ (k + 1) * (2 * half + 1) := h
      have hhalf : N * 10 ^ q * 2 ^ k ≤ half := by
        have := Nat.le_of_mul_le_mul_left heven (by positivity)
        omega
      calc N * 10 ^ (k + q) = 5 ^ k * (N * 10 ^ q * 2 ^ k) := by rw [pow_add, hpow k]; ring
        _ ≤ 5 ^ k * half := Nat.mul_le_mul_left _ hhalf
  simpa using h

/-! ## Dropping places -/

/-- Keeping nine digits of ten, rounded at the last of them. -/
theorem roundTenth_eq (m : Nat) : (m / 10 + if 5 ≤ m % 10 then 1 else 0) = (m + 5) / 10 := by
  split <;> omega

/-- Up to twenty-eight places are kept. -/
theorem dropUnheld_of_le_held {p : Nat} (h : p ≤ 28) (m : Nat) : dropUnheld m p = ⟨m, p⟩ := by
  cases p with
  | zero => rfl
  | succ p => rw [dropUnheld, if_pos (Nat.lt_of_succ_le h)]

/-- A place beyond twenty-eight is dropped, and the last one left is rounded. -/
theorem dropUnheld_of_le {p : Nat} (h : 28 ≤ p) (m : Nat) :
    dropUnheld m (p + 1) = if m / 10 = 0 then ⟨0, 0⟩ else dropUnheld ((m + 5) / 10) p := by
  rw [dropUnheld, if_neg (by omega), roundTenth_eq]

/-- Zero stays zero, however many of its places are dropped. -/
theorem toRat_dropUnheld_zero (p : Nat) : (dropUnheld 0 p).toRat = 0 := by
  by_cases hp : p ≤ 28
  · rw [dropUnheld_of_le_held hp, toRat, Nat.cast_zero, zero_div]
  · obtain ⟨p, rfl⟩ : ∃ q, p = q + 1 := Nat.exists_eq_add_one.2 (by omega)
    rw [dropUnheld_of_le (by omega), if_pos rfl, toRat_whole, Nat.cast_zero]

/-- A coefficient of at most fifty-two bits keeps its places. -/
theorem dropUnsure_of_lt {m : Nat} (h : m < leadingBit) (p : Nat) : dropUnsure m p = ⟨m, p⟩ := by
  cases p with
  | zero => rfl
  | succ p => rw [dropUnsure, if_pos h]

/-- A place is dropped where the coefficient has more than fifty-two bits. -/
theorem dropUnsure_of_le {m : Nat} (h : leadingBit ≤ m) (p : Nat) :
    dropUnsure m (p + 1) = dropUnsure ((m + 5) / 10) p := by
  rw [dropUnsure, if_neg (by omega), roundTenth_eq]

/-- What keeps the order of coefficients with one number of places, and does not see zeros behind
the last place, keeps the order of all numbers. -/
theorem toRat_mono_of_shift {drop : Nat → Nat → Scaled}
    (hshift : ∀ m p, (drop (m * 10) (p + 1)).toRat = (drop m p).toRat)
    (hmono : ∀ p m m', m ≤ m' → (drop m p).toRat ≤ (drop m' p).toRat) {s t : Scaled}
    (h : s.toRat ≤ t.toRat) :
    (drop s.coefficient s.places).toRat ≤ (drop t.coefficient t.places).toRat := by
  have hshifts : ∀ j m p, (drop (m * 10 ^ j) (p + j)).toRat = (drop m p).toRat := by
    intro j m p
    induction j with
    | zero => simp
    | succ j ih => rw [pow_succ, ← Nat.mul_assoc, ← Nat.add_assoc, hshift, ih]
  have hvalues : ∀ j m p, toRat ⟨m * 10 ^ j, p + j⟩ = toRat ⟨m, p⟩ := by
    intro j m p
    induction j with
    | zero => simp
    | succ j ih => rw [pow_succ, ← Nat.mul_assoc, ← Nat.add_assoc, toRat_shift, ih]
  obtain ⟨m, p⟩ := s
  obtain ⟨m', p'⟩ := t
  -- both numbers are given the places of the other one as well
  have hle : toRat ⟨m * 10 ^ p', p + p'⟩ ≤ toRat ⟨m' * 10 ^ p, p + p'⟩ := by
    rw [hvalues, Nat.add_comm p p', hvalues]
    exact h
  have hdrop := hmono (p + p') _ _ ((toRat_le_toRat_iff _ _ _).1 hle)
  rw [hshifts, Nat.add_comm p p', hshifts] at hdrop
  exact hdrop

/-- Dropping places beyond twenty-eight keeps the order of numbers. -/
theorem toRat_dropUnheld_mono {s t : Scaled} (h : s.toRat ≤ t.toRat) :
    (dropUnheld s.coefficient s.places).toRat ≤ (dropUnheld t.coefficient t.places).toRat := by
  refine toRat_mono_of_shift (fun m p => ?shift) (fun p m m' hm => ?mono) h
  case shift =>
    by_cases hp : p < 28
    · rw [dropUnheld_of_le_held hp, dropUnheld_of_le_held hp.le, toRat_shift]
    · rw [dropUnheld_of_le (by omega), Nat.mul_div_cancel m (by decide),
        show (m * 10 + 5) / 10 = m by omega]
      by_cases hm : m = 0
      · rw [if_pos hm, hm, toRat_whole, toRat_dropUnheld_zero, Nat.cast_zero]
      · rw [if_neg hm]
  case mono =>
    induction p generalizing m m' with
    | zero => exact (toRat_le_toRat_iff m m' 0).2 hm
    | succ p ih =>
      by_cases hp : p < 28
      · rw [dropUnheld_of_le_held hp, dropUnheld_of_le_held hp]
        exact (toRat_le_toRat_iff m m' (p + 1)).2 hm
      · rw [dropUnheld_of_le (by omega), dropUnheld_of_le (by omega)]
        split
        · rw [toRat_whole, Nat.cast_zero]
          exact toRat_nonneg _
        · rw [if_neg (by omega)]
          exact ih _ _ (by omega)

/-- Dropping the places of large coefficients keeps the order of numbers. -/
theorem toRat_dropUnsure_mono {s t : Scaled} (h : s.toRat ≤ t.toRat) :
    (dropUnsure s.coefficient s.places).toRat ≤ (dropUnsure t.coefficient t.places).toRat := by
  refine toRat_mono_of_shift (fun m p => ?shift) (fun p m m' hm => ?mono) h
  case shift =>
    by_cases hm : m * 10 < leadingBit
    · rw [dropUnsure_of_lt hm, dropUnsure_of_lt (by omega), toRat_shift]
    · rw [dropUnsure_of_le (by omega), show (m * 10 + 5) / 10 = m by omega]
  case mono =>
    induction p generalizing m m' with
    | zero => exact (toRat_le_toRat_iff m m' 0).2 hm
    | succ p ih =>
      by_cases hm' : m' < leadingBit
      · rw [dropUnsure_of_lt (by omega), dropUnsure_of_lt hm']
        exact (toRat_le_toRat_iff m m' (p + 1)).2 hm
      · rw [dropUnsure_of_le (m := m') (by omega)]
        by_cases hlow : m < leadingBit
        · -- the smallest coefficient that is too long is rounded up
          have hsmallest : (leadingBit + 5) / 10 < leadingBit := by decide
          rw [dropUnsure_of_lt hlow]
          calc toRat ⟨m, p + 1⟩ ≤ toRat ⟨(leadingBit + 5) / 10 * 10, p + 1⟩ :=
                (toRat_le_toRat_iff _ _ _).2 (hlow.le.trans (by decide))
            _ = (dropUnsure ((leadingBit + 5) / 10) p).toRat := by
                rw [toRat_shift, dropUnsure_of_lt hsmallest]
            _ ≤ (dropUnsure ((m' + 5) / 10) p).toRat := ih _ _ (by omega)
        · rw [dropUnsure_of_le (by omega)]
          exact ih _ _ (by omega)

/-! ## Approximations -/

/-- A whole number is its own approximation. -/
theorem approximate_whole (m : Nat) : approximate m 0 = ⟨m, 0⟩ := rfl

/-- What is less with decimal places is less when places have been dropped. -/
theorem toRat_approximate_mono {m n m' n' : Nat}
    (h : (fromBinaryPlaces n ⟨m, n⟩).toRat ≤ (fromBinaryPlaces n' ⟨m', n'⟩).toRat) :
    (approximate m n).toRat ≤ (approximate m' n').toRat :=
  toRat_dropUnsure_mono (toRat_dropUnheld_mono h)

/-- An integer below a number is below its approximation. -/
theorem natCast_le_toRat_approximate {N m n : Nat} (h : (N : ℚ) ≤ m / 2 ^ n) :
    (N : ℚ) ≤ (approximate m n).toRat := by
  rw [← toRat_whole, ← approximate_whole]
  refine toRat_approximate_mono ?_
  rw [fromBinaryPlaces, toRat_whole]
  exact natCast_le_toRat_fromBinaryPlaces h

/-- An integer above a number is above its approximation. -/
theorem toRat_approximate_le_natCast {N m n : Nat} (h : (m / 2 ^ n : ℚ) ≤ N) :
    (approximate m n).toRat ≤ N := by
  rw [← toRat_whole, ← approximate_whole]
  refine toRat_approximate_mono ?_
  rw [fromBinaryPlaces, toRat_whole]
  exact (toRat_fromBinaryPlaces_le m n).trans h

end Scaled

end Binary64

end TemplateExpr
