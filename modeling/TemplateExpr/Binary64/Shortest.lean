/-
# The shortest decimal that reads back

Among the decimals that are nearer to a given positive number than to any other binary64 number,
the one with the fewest digits is chosen.  The grids of the multiples of `10 ^ p` are tried
from the coarsest to the finest; of a grid only the two neighbours of the number can be near
enough, and of two the nearer is taken, the upper one at a tie.

All is compared in units of `2 ^ -1076 * 10 ^ -324`: they are fine enough for the halfway points
between neighbouring numbers and for every grid.
-/
import TemplateExpr.Binary64.Basic
import TemplateExpr.Decimal

namespace TemplateExpr

namespace Binary64

/-- The distance of the halfway point below a number: the numbers below a power of two stand
twice as close as those above it. -/
def gapBelow (x : Binary64) : Nat :=
  if x.significand = leadingBit ∧ x.unit ≠ 0 then 1 <<< x.unit else 2 <<< x.unit

/-- The decimal `v`, in quarters of `2 ^ -1074`, all scaled by `scale`, is read as `x`: it lies
between the halfway points next to `x`, which themselves are read as the even neighbour. -/
def readsBack (x : Binary64) (scale v : Nat) : Bool :=
  let low := (4 * x.magnitude - x.gapBelow) * scale
  let high := (4 * x.magnitude + 2 <<< x.unit) * scale
  if x.significand % 2 = 0 then decide (low ≤ v ∧ v ≤ high) else decide (low < v ∧ v < high)

/-- The factor that turns every power of ten from `10 ^ -324` on into a natural number. -/
def decimalScale : Nat := tenPow 324

/-- The multiple of `10 ^ (g - 324)` that is read as `x` and, of two, is the nearer. -/
def onGrid? (x : Binary64) (g : Nat) : Option Nat :=
  let step := tenPow g <<< 1076
  let v := 4 * x.magnitude * decimalScale
  let below := v / step
  let lower := x.readsBack decimalScale (below * step)
  let upper := x.readsBack decimalScale ((below + 1) * step)
  if upper && (!lower || decide (step ≤ 2 * (v % step))) then some (below + 1)
  else if lower then some below
  else none

/-- The first grid with a decimal that is read as `x`, beginning at `10 ^ (g - 324)` and going to
the finer ones. -/
def shortestFrom (x : Binary64) : Nat → Nat × Int
  | 0 => ((x.onGrid? 0).getD 0, -324)
  | g + 1 =>
    match x.onGrid? (g + 1) with
    | some d => (d, (g + 1 : Nat) - 324)
    | none => shortestFrom x g

/-- The digits and the decimal exponent of the shortest decimal that is read as the positive
finite number `x`; no binary64 number has more than 309 digits before the point. -/
def shortest (x : Binary64) : Nat × Int := x.shortestFrom 633

end Binary64

end TemplateExpr
