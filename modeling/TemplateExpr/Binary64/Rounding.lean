/-
# Rounding to the nearest binary64 number

A non-negative quotient `num / den` is rounded to the nearest binary64 number, a half going to
the even significand, in natural-number arithmetic alone.  Counted in units of `2 ^ -1074` the
quotient has some number of binary digits; those beyond the fifty-third are rounded away.  The
rounded significand is then added to the exponent bits, so that a carry out of the significand
moves on into the exponent, and out of the largest exponent into infinity.

Main statements:
* `divNearest_eq_or`: the quotient is rounded to one of its two neighbours.
-/
import TemplateExpr.Binary64.Basic

namespace TemplateExpr

/-! ## Rounding a quotient -/

/-- The natural number nearest to `num / den`, a half going to the even one. -/
def divNearest (num den : Nat) : Nat :=
  let below := num / den
  if 2 * (num % den) < den ∨ 2 * (num % den) = den ∧ below % 2 = 0 then below else below + 1

/-- A quotient is rounded to one of its two neighbours. -/
theorem divNearest_eq_or (num den : Nat) :
    divNearest num den = num / den ∨ divNearest num den = num / den + 1 := by
  unfold divNearest
  dsimp only
  split
  · exact .inl rfl
  · exact .inr rfl

namespace Binary64

/-! ## Rounding to a word -/

/-- The bits, sign apart, of the number nearest to `num / den`. -/
def restOfRatio (num den : Nat) : Nat :=
  let scaled := num <<< 1074
  let unit := Nat.log2 (scaled / den) - 52
  min (unit * leadingBit + divNearest scaled (den <<< unit)) infinityRest

/-- The binary64 number nearest to `num / den`, with the given sign. -/
def ofRatio (negative : Bool) (num den : Nat) : Binary64 :=
  ofSignAndRest negative (restOfRatio num den)

/-- The binary64 number nearest to a natural number. -/
def ofNat (n : Nat) : Binary64 := ofRatio false n 1

/-- The binary64 number nearest to an integer. -/
def ofInt (n : Int) : Binary64 := ofRatio (decide (n < 0)) n.natAbs 1

/-- What is rounded never leaves the words of finite numbers and infinity. -/
theorem restOfRatio_le (num den : Nat) : restOfRatio num den ≤ infinityRest :=
  Nat.min_le_right _ _

end Binary64

end TemplateExpr
