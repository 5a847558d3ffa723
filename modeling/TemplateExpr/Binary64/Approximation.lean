/-
# Decimal approximations

Beside an integer a binary64 number below `2 ^ 96` counts as a decimal with at most twenty-eight
places.  A number without a fraction is such a decimal.  Of any other, the binary places are first
turned into decimal ones while the coefficient stays below `2 ^ 96`, then dropped one by one; after
that the places are dropped that the fifty-two bits of a significand could not tell apart, and
each dropped digit of five or more rounds the coefficient up.  Beside all other numbers it is the
integer that is rounded.

Main statements:
* `compareToInt?_eq_map_swap`: a number and an integer have the same order both ways round.
-/
import TemplateExpr.Binary64.Rounding
import TemplateExpr.Decimal

namespace TemplateExpr

namespace Binary64

/-! ## From binary to decimal places -/

/-- An unsigned coefficient with its places. -/
structure Scaled where
  /-- The digits without the point. -/
  coefficient : Nat
  /-- The number of digits after the point. -/
  places : Nat
deriving DecidableEq

/-- Turns one binary place into a decimal one: half of the coefficient if it is even, else five
times the coefficient at one more place, else half of it rounded down. -/
def Scaled.fromBinaryPlace (s : Scaled) : Scaled :=
  if s.coefficient % 2 = 0 then ⟨s.coefficient / 2, s.places - 1⟩
  else if s.coefficient * 5 < 1 <<< 96 then ⟨s.coefficient * 5, s.places⟩
  else ⟨s.coefficient / 2, s.places - 1⟩

/-- Turns `n` binary places into decimal ones. -/
def Scaled.fromBinaryPlaces : Nat → Scaled → Scaled
  | 0, s => s
  | n + 1, s => fromBinaryPlaces n s.fromBinaryPlace

/-- Drops places until twenty-eight are left; a coefficient that has become zero has none. -/
def dropUnheld : (coefficient places : Nat) → Scaled
  | m, 0 => ⟨m, 0⟩
  | m, p + 1 =>
    if p < 28 then ⟨m, p + 1⟩
    else if m / 10 = 0 then ⟨0, 0⟩
    else dropUnheld (m / 10 + if 5 ≤ m % 10 then 1 else 0) p

/-- Drops places while the coefficient has more than fifty-two bits. -/
def dropUnsure : (coefficient places : Nat) → Scaled
  | m, 0 => ⟨m, 0⟩
  | m, p + 1 =>
    if m < leadingBit then ⟨m, p + 1⟩
    else dropUnsure (m / 10 + if 5 ≤ m % 10 then 1 else 0) p

/-- The approximation of the number `m` with the last `n` of its binary digits behind the point. -/
def approximate (m n : Nat) : Scaled :=
  let exact := Scaled.fromBinaryPlaces n ⟨m, n⟩
  let held := dropUnheld exact.coefficient exact.places
  dropUnsure held.coefficient held.places

/-- The decimal that a finite number counts as beside an integer. -/
def approximation (x : Binary64) : Decimal :=
  let s := approximate (x.significand <<< (x.unit - 1074)) (1074 - x.unit)
  ⟨x.negative, s.coefficient, s.places⟩

/-! ## Integers beside binary64 numbers -/

/-- The decimal that stands for a number; it has none if it is not finite or as large as `2 ^ 96`
in either direction. -/
def decimal? (x : Binary64) : Option Decimal :=
  if x.isFinite && decide (x.magnitude < (1 <<< 96) <<< 1074) then some x.approximation else none

theorem decimal?_of_not_isFinite {x : Binary64} (h : x.isFinite = false) : x.decimal? = none := by
  rw [decimal?, h]
  rfl

theorem decimal?_of_lt {x : Binary64} (hfinite : x.isFinite = true)
    (h : x.magnitude < (1 <<< 96) <<< 1074) : x.decimal? = some x.approximation := by
  rw [decimal?, hfinite, decide_eq_true h]
  rfl

theorem eq_approximation_of_decimal? {x : Binary64} {d : Decimal} (h : x.decimal? = some d) :
    d = x.approximation := by
  unfold decimal? at h
  split at h
  · exact (Option.some.inj h).symm
  · cases h

/-- The order of an integer and a number: as decimals if there is one that stands for the number,
else as binary64 numbers. -/
def compareInt? (n : Int) (x : Binary64) : Option Ordering :=
  match x.decimal? with
  | some d => some ((Decimal.ofInt n).compare d)
  | none => compare? (ofInt n) x

theorem compareInt?_nan {n : Int} {x : Binary64} (h : x.isNaN = true) : compareInt? n x = none := by
  have hfinite : x.isFinite = false := by
    rw [Bool.eq_false_iff]
    intro hfinite
    simp [isNaN_of_isFinite hfinite] at h
  rw [compareInt?, decimal?_of_not_isFinite hfinite]
  exact (compare?_eq_none_iff _ _).2 (.inr h)

/-- The order of a number and an integer, in the same way. -/
def compareToInt? (x : Binary64) (n : Int) : Option Ordering :=
  match x.decimal? with
  | some d => some (d.compare (Decimal.ofInt n))
  | none => compare? x (ofInt n)

/-- A number and an integer have the same order both ways round. -/
theorem compareToInt?_eq_map_swap (x : Binary64) (n : Int) :
    compareToInt? x n = (compareInt? n x).map Ordering.swap := by
  unfold compareToInt? compareInt?
  split
  · rw [Option.map_some, Decimal.compare_swap]
  · rw [compare?_swap]

end Binary64

end TemplateExpr
