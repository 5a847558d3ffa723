/-
# Decimals

A decimal is an integer with some of its digits behind the point.  Two decimals are compared
exactly, each with as many places more as the other one has.

Main statements:
* `signed_ofInt`: an integer is the decimal without places that has its digits.
-/
namespace TemplateExpr

/-- A power of ten. -/
def tenPow (n : Nat) : Nat := Nat.pow 10 n

theorem tenPow_zero : tenPow 0 = 1 := rfl

theorem tenPow_succ (n : Nat) : tenPow (n + 1) = tenPow n * 10 := rfl

/-- The decimal whose digits are those of `coefficient`, the last `places` of them behind the
point, and which lies below zero if `negative` is set. -/
structure Decimal where
  /-- The decimal is not above zero. -/
  negative : Bool
  /-- The decimal without sign and point. -/
  coefficient : Nat
  /-- The number of digits behind the point. -/
  places : Nat
deriving DecidableEq, Inhabited

namespace Decimal

/-- The coefficient with its sign. -/
def signed (d : Decimal) : Int := if d.negative then -d.coefficient else d.coefficient

/-- An integer as a decimal. -/
def ofInt (n : Int) : Decimal := ⟨decide (n < 0), n.natAbs, 0⟩

theorem signed_ofInt (n : Int) : (ofInt n).signed = n := by
  show (if decide (n < 0) = true then -(n.natAbs : Int) else n.natAbs) = n
  by_cases h : n < 0
  · rw [decide_eq_true h, if_pos rfl]
    omega
  · rw [decide_eq_false h, if_neg Bool.false_ne_true]
    omega

/-- The order of two decimals. -/
def compare (d e : Decimal) : Ordering :=
  Ord.compare (d.signed * tenPow e.places) (e.signed * tenPow d.places)

theorem compare_swap (d e : Decimal) : (d.compare e).swap = e.compare d :=
  Std.OrientedOrd.eq_swap.symm

end Decimal

end TemplateExpr
