/-
# Binary floating-point numbers

A binary64 number is its 64-bit word.  The fields of the word are read as naturals, and
everything else is said through them: the magnitude counts units of `2 ^ -1074`, the spacing of
the smallest numbers, so that every number but a NaN is a whole number of units, and an infinity
stands one binade above the largest finite number.  Comparison is the comparison of these
integers; a NaN is ordered with nothing.

Main statements:
* `compare?_eq_none_iff`: two numbers are unordered exactly when one of them is a NaN;
* `compare?_self`: a number that is no NaN equals itself.
-/
namespace TemplateExpr

/-- A binary64 number, given by its word: a sign bit, eleven exponent bits, fifty-two fraction
bits. -/
structure Binary64 where
  /-- The word. -/
  bits : UInt64
deriving DecidableEq, Inhabited

namespace Binary64

/-! ## The fields of a word -/

/-- The sign bit, the highest of the sixty-four. -/
def signBit : Nat := 0x8000000000000000

/-- The leading bit of a significand, which has no place among the fifty-two fraction bits; it is
also the lowest exponent bit. -/
def leadingBit : Nat := 0x10000000000000

/-- The exponent of infinities and NaNs, in which all eleven bits are set. -/
def topExponent : Nat := 2047

/-- The sign bit is set. -/
def negative (x : Binary64) : Bool := decide (signBit ≤ x.bits.toNat)

/-- The exponent bits. -/
def exponent (x : Binary64) : Nat := x.bits.toNat / leadingBit % (topExponent + 1)

/-- The fraction bits. -/
def fraction (x : Binary64) : Nat := x.bits.toNat % leadingBit

/-- A number other than a NaN and an infinity. -/
def isFinite (x : Binary64) : Bool := x.exponent != topExponent

/-- A word that stands for no number. -/
def isNaN (x : Binary64) : Bool := x.exponent == topExponent && x.fraction != 0

/-- The fraction with its leading bit, which only the smallest numbers lack. -/
def significand (x : Binary64) : Nat :=
  if x.exponent = 0 then x.fraction else leadingBit + x.fraction

/-- The binary exponent of the last place of the significand, counted from `-1074`. -/
def unit (x : Binary64) : Nat := x.exponent - 1

/-- The absolute value in units of `2 ^ -1074`. -/
def magnitude (x : Binary64) : Nat := x.significand <<< x.unit

/-- The number in units of `2 ^ -1074`. -/
def scaled (x : Binary64) : Int := if x.negative then -x.magnitude else x.magnitude

/-- The significand is what the fraction bits and the leading bit can hold. -/
theorem significand_lt (x : Binary64) : x.significand < 2 * leadingBit := by
  have : x.fraction < leadingBit := Nat.mod_lt _ (by decide)
  unfold significand
  split <;> omega

/-- A finite number is no NaN. -/
theorem isNaN_of_isFinite {x : Binary64} (h : x.isFinite = true) : x.isNaN = false := by
  have hne : x.exponent ≠ topExponent := by simpa [isFinite] using h
  simp [isNaN, hne]

/-! ## Words from fields -/

/-- The number with the given sign whose remaining bits are `rest`. -/
def ofSignAndRest (negative : Bool) (rest : Nat) : Binary64 :=
  ⟨UInt64.ofNat ((if negative then signBit else 0) + rest)⟩

/-- The bits of an infinity, sign apart. -/
def infinityRest : Nat := topExponent * leadingBit

/-- The word that stands for every NaN. -/
def nan : Binary64 := ofSignAndRest false (infinityRest + leadingBit / 2)

/-! ## Comparison -/

/-- The order of two numbers; a NaN has none. -/
def compare? (x y : Binary64) : Option Ordering :=
  if x.isNaN || y.isNaN then none else some (compare x.scaled y.scaled)

theorem compare?_eq_none_iff (x y : Binary64) :
    compare? x y = none ↔ x.isNaN = true ∨ y.isNaN = true := by
  unfold compare?
  split <;> simp_all

theorem compare?_self {x : Binary64} (h : x.isNaN = false) : compare? x x = some .eq := by
  simp [compare?, h]

theorem compare?_swap (x y : Binary64) : (compare? x y).map Ordering.swap = compare? y x := by
  unfold compare?
  rw [Bool.or_comm]
  split
  · rfl
  · exact congrArg some Std.OrientedOrd.eq_swap.symm

/-- Numeric equality: the two zeros are one number, and a NaN differs from itself. -/
def sameNumber (x y : Binary64) : Bool := compare? x y == some .eq

end Binary64

end TemplateExpr
