/-
# The nearest number

A natural number that is no binary64 number is rounded to the nearest one, and where two are as
near to the one with the even fraction.  The numbers of a binade stand on a grid, on which the
quotient is rounded; those of lower binades are farther away than the lowest point of the grid.

Main statements:
* `divNearest_le`, `divNearest_even`: no point of the grid is nearer;
* `isNearest_ofNat`: no finite number is nearer;
* `absRat_ofInt_le`: an integer of 64 bits is rounded to a finite number of about its size.
-/
import TemplateExpr.Binary64.Rounding
import TemplateExpr.Proofs.Numbers.Exact

namespace TemplateExpr

/-! ## Rounding on a grid -/

section

variable {num den : Nat}

/-- A quotient is rounded by a half at most, and by a half only to an even number. -/
theorem divNearest_within (num : Nat) (h : 0 < den) :
    2 * ((divNearest num den : ℤ) * den - num).natAbs ≤ den ∧
      (2 * ((divNearest num den : ℤ) * den - num).natAbs = den → divNearest num den % 2 = 0) := by
  have hrest : num % den < den := Nat.mod_lt num h
  have hnum : ((num / den : Nat) : ℤ) * den + (num % den : Nat) = num := by
    exact_mod_cast Nat.div_add_mod' num den
  have habove : (((num / den : Nat) : ℤ) + 1) * den = (num / den : Nat) * den + den := by ring
  unfold divNearest
  dsimp only
  split
  · omega
  · rw [Nat.cast_add_one, habove]
    omega

/-- Two points of the grid are one step apart or more. -/
theorem grid_distance (den : Nat) {m r : ℤ} (h : m ≠ r) :
    den ≤ (m * den - r * den).natAbs := by
  rw [← sub_mul, Int.natAbs_mul, Int.natAbs_natCast]
  exact Nat.le_mul_of_pos_left den (Int.natAbs_pos.2 (sub_ne_zero.2 h))

/-- No point of the grid is nearer than the one to which the quotient is rounded. -/
theorem divNearest_le (h : 0 < den) (m : ℤ) :
    ((divNearest num den : ℤ) * den - num).natAbs ≤ (m * den - num).natAbs := by
  have hwithin := (divNearest_within num h).1
  by_cases hm : m = divNearest num den
  · rw [hm]
  · have := grid_distance den hm
    omega

/-- Where another point of the grid is as near, the quotient is rounded to an even number. -/
theorem divNearest_even (h : 0 < den) {m : ℤ} (hm : m ≠ divNearest num den)
    (heq : (m * den - num).natAbs = ((divNearest num den : ℤ) * den - num).natAbs) :
    divNearest num den % 2 = 0 := by
  obtain ⟨hwithin, heven⟩ := divNearest_within num h
  have := grid_distance den hm
  exact heven (by omega)

end

namespace Binary64

/-! ## Words without a sign -/

theorem toNat_ofSignAndRest {rest : Nat} (h : rest < signBit) :
    (ofSignAndRest false rest).bits.toNat = rest := by
  have hsize : signBit < UInt64.size := by decide
  simp only [ofSignAndRest, Bool.false_eq_true, if_false, Nat.zero_add]
  exact UInt64.toNat_ofNat_of_lt' (by omega)

/-- The fields of a word are the quotient and the remainder by the leading bit. -/
theorem fields_ofSignAndRest {e f : Nat} (he : e ≤ topExponent) (hf : f < leadingBit) :
    (ofSignAndRest false (e * leadingBit + f)).negative = false ∧
      (ofSignAndRest false (e * leadingBit + f)).exponent = e ∧
      (ofSignAndRest false (e * leadingBit + f)).fraction = f := by
  have hrest : e * leadingBit + f < signBit := by
    unfold leadingBit signBit topExponent at *
    omega
  rw [negative, exponent, fraction, toNat_ofSignAndRest hrest]
  unfold leadingBit signBit topExponent at *
  refine ⟨decide_eq_false (by omega), ?_, ?_⟩ <;> omega

/-- The finite number above zero with the given significand at the given place. -/
structure HasSignificand (x : Binary64) (q k : Nat) : Prop where
  positive : x.negative = false
  finite : x.isFinite = true
  magnitude : x.magnitude = q * 2 ^ k
  parity : x.fraction % 2 = q % 2

theorem hasSignificand_of_fraction {f k : Nat} (hf : f < leadingBit) (hk : k ≤ 2045) :
    HasSignificand (ofSignAndRest false ((k + 1) * leadingBit + f)) (leadingBit + f) k := by
  obtain ⟨hnegative, hexponent, hfraction⟩ :=
    fields_ofSignAndRest (e := k + 1) (by unfold topExponent; omega) hf
  refine ⟨hnegative, ?_, ?_, ?_⟩
  · rw [isFinite, hexponent, bne_iff_ne]
    unfold topExponent
    omega
  · rw [magnitude_eq, significand, unit, hexponent, hfraction, if_neg (by omega),
      Nat.add_sub_cancel]
  · rw [hfraction]
    unfold leadingBit
    omega

/-- A significand that is one too large for its place carries into the exponent. -/
theorem hasSignificand_ofSignAndRest {q k : Nat} (hq : leadingBit ≤ q) (hq' : q ≤ 2 * leadingBit)
    (hk : k ≤ 2044) : HasSignificand (ofSignAndRest false (k * leadingBit + q)) q k := by
  rcases Nat.lt_or_eq_of_le hq' with hlt | rfl
  · have hx := hasSignificand_of_fraction (f := q - leadingBit) (k := k) (by omega) (by omega)
    have hrest : (k + 1) * leadingBit + (q - leadingBit) = k * leadingBit + q := by
      rw [add_mul, one_mul]
      omega
    rwa [hrest, Nat.add_sub_cancel' hq] at hx
  · have hx := hasSignificand_of_fraction (f := 0) (k := k + 1) (by decide) (by omega)
    have hrest : (k + 1 + 1) * leadingBit + 0 = k * leadingBit + 2 * leadingBit := by ring
    rw [hrest, Nat.add_zero] at hx
    refine ⟨hx.positive, hx.finite, ?_, hx.parity.trans (by decide)⟩
    rw [hx.magnitude, pow_succ]
    ring

/-! ## The nearest number -/

/-- No finite number is nearer, and where another one is as near the fraction is even. -/
structure IsNearest (x : Binary64) (r : ℚ) : Prop where
  finite : x.isFinite = true
  nearest : ∀ y : Binary64, y.isFinite = true → |x.toRat - r| ≤ |y.toRat - r|
  even : ∀ y : Binary64, y.isFinite = true → y.toRat ≠ x.toRat →
    |y.toRat - r| = |x.toRat - r| → x.fraction % 2 = 0

/-- A number of the binade or of a higher one stands on the grid, any other is below it. -/
theorem scaled_cases (y : Binary64) (k : Nat) :
    (∃ m : ℤ, y.scaled = m * (2 ^ k : Nat)) ∨ y.scaled < (leadingBit * 2 ^ k : Nat) := by
  rcases le_or_gt k y.unit with hk | hk
  · left
    have hmagnitude : y.magnitude = y.significand * 2 ^ (y.unit - k) * 2 ^ k := by
      rw [magnitude_eq, mul_assoc, ← pow_add, Nat.sub_add_cancel hk]
    rw [scaled, hmagnitude]
    split
    · exact ⟨-(y.significand * 2 ^ (y.unit - k) : Nat), by push_cast; ring⟩
    · exact ⟨(y.significand * 2 ^ (y.unit - k) : Nat), by push_cast; ring⟩
  · right
    have hlt : y.magnitude < leadingBit * 2 ^ k := by
      calc y.magnitude = y.significand * 2 ^ y.unit := magnitude_eq y
        _ < 2 * leadingBit * 2 ^ y.unit :=
          Nat.mul_lt_mul_of_pos_right y.significand_lt (Nat.two_pow_pos _)
        _ = leadingBit * 2 ^ (y.unit + 1) := by ring
        _ ≤ leadingBit * 2 ^ k := Nat.mul_le_mul_left _ (Nat.pow_le_pow_right (by decide) hk)
    rw [scaled]
    split <;> omega

theorem abs_toRat_sub (x : Binary64) (n : Nat) :
    |x.toRat - n| = (x.scaled - (n * unitsInOne : Nat)).natAbs / unitsInOne := by
  have hpos := unitsInOne_pos
  have hdiff : x.toRat - n = ((x.scaled - (n * unitsInOne : Nat) : ℤ) : ℚ) / unitsInOne := by
    rw [toRat]
    field_simp
    push_cast
    ring
  rw [hdiff, abs_div, abs_of_pos hpos, Nat.cast_natAbs, Int.cast_abs]

theorem log2_mul_two_pow {n : Nat} (hpos : 0 < n) (e : Nat) : (n * 2 ^ e).log2 = n.log2 + e := by
  have hne : n * 2 ^ e ≠ 0 := (Nat.mul_pos hpos (Nat.two_pow_pos e)).ne'
  rw [Nat.log2_eq_iff hne]
  constructor
  · rw [pow_add]
    exact Nat.mul_le_mul_right _ (Nat.log2_self_le hpos.ne')
  · rw [add_right_comm, pow_add]
    exact Nat.mul_lt_mul_of_pos_right Nat.lt_log2_self (Nat.two_pow_pos e)

theorem shiftLeft_eq_mul_unitsInOne (n : Nat) : n <<< 1074 = n * unitsInOne := by
  unfold unitsInOne
  -- the power itself is too large to be computed
  generalize 1074 = places
  exact Nat.shiftLeft_eq n places

/-- What a natural number is rounded to counts units of the binade of the number. -/
theorem exists_hasSignificand_ofNat {n : Nat} (hpos : 0 < n) (h : n < 2 ^ 64) :
    ∃ k, leadingBit * 2 ^ k ≤ n * unitsInOne ∧
      HasSignificand (ofNat n) (divNearest (n * unitsInOne) (2 ^ k)) k := by
  have hlog : n.log2 < 64 := (Nat.log2_lt hpos.ne').2 h
  have hlog' : (n * unitsInOne).log2 = n.log2 + 1074 := log2_mul_two_pow hpos 1074
  have hne : n * unitsInOne ≠ 0 := (Nat.mul_pos hpos (Nat.cast_pos.1 unitsInOne_pos)).ne'
  generalize hs : n * unitsInOne = s at hlog' hne
  obtain ⟨k, hk⟩ : ∃ k, s.log2 = k + 52 := ⟨s.log2 - 52, by omega⟩
  have hgrid : leadingBit * 2 ^ k ≤ s := by
    calc leadingBit * 2 ^ k = 2 ^ s.log2 := by rw [leadingBit_eq, ← pow_add, hk, add_comm]
      _ ≤ s := Nat.log2_self_le hne
  have hgrid' : s < 2 * leadingBit * 2 ^ k := by
    calc s < 2 ^ (s.log2 + 1) := Nat.lt_log2_self
      _ = 2 * leadingBit * 2 ^ k := by
        rw [hk, leadingBit_eq]
        ring
  have hbelow : leadingBit ≤ s / 2 ^ k := (Nat.le_div_iff_mul_le (Nat.two_pow_pos k)).2 hgrid
  have habove : s / 2 ^ k < 2 * leadingBit := (Nat.div_lt_iff_lt_mul (Nat.two_pow_pos k)).2 hgrid'
  have hround := divNearest_eq_or s (2 ^ k)
  have hrest : restOfRatio n 1 = k * leadingBit + divNearest s (2 ^ k) := by
    simp only [restOfRatio]
    rw [shiftLeft_eq_mul_unitsInOne, hs, Nat.div_one, hk, Nat.add_sub_cancel, Nat.one_shiftLeft]
    apply Nat.min_eq_left
    unfold infinityRest topExponent leadingBit at *
    omega
  refine ⟨k, hgrid, ?_⟩
  rw [ofNat, ofRatio, hrest]
  exact hasSignificand_ofSignAndRest (by omega) (by omega) (by omega)

/-- No finite number is nearer to a natural number than the one to which it is rounded. -/
theorem isNearest_ofNat {n : Nat} (hpos : 0 < n) (h : n < 2 ^ 64) : (ofNat n).IsNearest n := by
  obtain ⟨k, hgrid, hx⟩ := exists_hasSignificand_ofNat hpos h
  generalize ofNat n = x at hx
  generalize hs : n * unitsInOne = s at hgrid hx
  have hscaled : x.scaled = divNearest s (2 ^ k) * (2 ^ k : Nat) := by
    rw [scaled, hx.positive, if_neg (by simp), hx.magnitude]
    push_cast
    rfl
  have hle : ∀ m : ℤ, (x.scaled - s).natAbs ≤ (m * (2 ^ k : Nat) - s).natAbs := by
    rw [hscaled]
    exact divNearest_le (Nat.two_pow_pos k)
  -- the lowest point of the grid is not above the number, but above all that is below the grid
  have hlowest := hle leadingBit
  have hbelow : ∀ y : Binary64, y.scaled < (leadingBit * 2 ^ k : Nat) →
      (x.scaled - s).natAbs < (y.scaled - s).natAbs := by
    intro y hy
    rw [Nat.cast_mul] at hy
    omega
  refine ⟨hx.finite, fun y _ => ?_, fun y _ hne heq => ?_⟩
  · rw [abs_toRat_sub, abs_toRat_sub, hs, div_le_div_iff_of_pos_right unitsInOne_pos, Nat.cast_le]
    rcases scaled_cases y k with ⟨m, hm⟩ | hy
    · rw [hm]
      exact hle m
    · exact (hbelow y hy).le
  · rw [abs_toRat_sub, abs_toRat_sub, hs, div_left_inj' unitsInOne_pos.ne', Nat.cast_inj] at heq
    rcases scaled_cases y k with ⟨m, hm⟩ | hy
    · rw [hx.parity]
      rw [hm, hscaled] at heq
      refine divNearest_even (Nat.two_pow_pos k) ?_ heq
      rintro rfl
      exact hne (by rw [toRat, toRat, hm, hscaled])
    · exact absurd heq (hbelow y hy).ne'

/-! ## Rounded integers -/

/-- The sign takes nothing from the other fields of a word. -/
theorem fields_ofSignAndRest_eq {rest : Nat} (h : rest < signBit) (negative : Bool) :
    (ofSignAndRest negative rest).exponent = (ofSignAndRest false rest).exponent ∧
      (ofSignAndRest negative rest).fraction = (ofSignAndRest false rest).fraction := by
  cases negative with
  | false => exact ⟨rfl, rfl⟩
  | true =>
    have hsize : 2 * signBit = UInt64.size := by decide
    have hbits : (ofSignAndRest true rest).bits.toNat = signBit + rest := by
      simp only [ofSignAndRest, if_true]
      exact UInt64.toNat_ofNat_of_lt' (by omega)
    rw [exponent, exponent, fraction, fraction, hbits, toNat_ofSignAndRest h]
    unfold signBit leadingBit topExponent
    omega

/-- A negative quotient is rounded as the one without the sign. -/
theorem ofRatio_eq_false (negative : Bool) (num den : Nat) :
    (ofRatio negative num den).isFinite = (ofRatio false num den).isFinite ∧
      (ofRatio negative num den).magnitude = (ofRatio false num den).magnitude := by
  have hrest : restOfRatio num den < signBit :=
    Nat.lt_of_le_of_lt (restOfRatio_le num den) (by decide)
  obtain ⟨hexponent, hfraction⟩ := fields_ofSignAndRest_eq hrest negative
  unfold ofRatio isFinite magnitude significand unit
  rw [hexponent, hfraction]
  exact ⟨rfl, rfl⟩

/-- What a natural number is rounded to is not far from it. -/
theorem absRat_ofNat_le {n : Nat} (h : n < 2 ^ 64) :
    (ofNat n).isFinite = true ∧ (ofNat n).absRat ≤ 2 * n := by
  rcases Nat.eq_zero_or_pos n with rfl | hpos
  · refine ⟨by decide, ?_⟩
    have hzero : (ofNat 0).magnitude = 0 := by decide
    rw [absRat, hzero, Nat.cast_zero, zero_div, mul_zero]
  · have hnearest := isNearest_ofNat hpos h
    refine ⟨hnearest.finite, ?_⟩
    -- zero is a finite number, and it is no nearer
    have hzero : |(ofNat n).toRat - n| ≤ n := by
      have hle := hnearest.nearest ⟨0⟩ (by decide)
      have hscaled : (⟨0⟩ : Binary64).scaled = 0 := by decide
      have htoRat : (⟨0⟩ : Binary64).toRat = 0 := by rw [toRat, hscaled, Int.cast_zero, zero_div]
      rwa [htoRat, zero_sub, abs_neg, Nat.abs_cast] at hle
    have hdist := abs_sub_abs_le_abs_sub (ofNat n).toRat n
    rw [Nat.abs_cast, abs_toRat] at hdist
    linarith

/-- An integer of 64 bits is rounded to a finite number within the words. -/
theorem absRat_ofInt_le (n : Int64) :
    (ofInt n.toInt).isFinite = true ∧ (ofInt n.toInt).absRat ≤ 2 ^ 64 := by
  have hlow := n.le_toInt
  have hhigh := n.toInt_lt
  have habs : n.toInt.natAbs ≤ 2 ^ 63 := by omega
  obtain ⟨hfinite, hmagnitude⟩ := ofRatio_eq_false (decide (n.toInt < 0)) n.toInt.natAbs 1
  obtain ⟨hfinite', hle⟩ := absRat_ofNat_le (n := n.toInt.natAbs) (by omega)
  refine ⟨hfinite.trans hfinite', ?_⟩
  have habs' : (n.toInt.natAbs : ℚ) ≤ 2 ^ 63 := by exact_mod_cast habs
  calc (ofInt n.toInt).absRat = (ofNat n.toInt.natAbs).absRat := by
        rw [absRat, absRat, ofInt, ofNat, hmagnitude]
    _ ≤ 2 * n.toInt.natAbs := hle
    _ ≤ 2 ^ 64 := by linarith

end Binary64

end TemplateExpr
