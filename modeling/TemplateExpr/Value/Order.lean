/-
# The order of values

Numbers are ordered with numbers and strings with strings.  Two integers and two floating-point
numbers are compared exactly, an integer and a floating-point number as decimals or, if the latter
is too large for one, as floating-point numbers.  Strings are ordered by the bytes of their UTF-8
form.

Main statements:
* `isNumber_of_compareNumbers?`: only numbers are ordered as numbers;
* `hasOrderWith_of_compare?`: only values of orderable kinds have an order.
-/
import TemplateExpr.Binary64.Approximation
import TemplateExpr.Value.Basic

namespace TemplateExpr

/-! ## Strings -/

/-- The bytes of the UTF-8 form. -/
def utf8Bytes (s : String) : List UInt8 := s.toByteArray.data.toList

/-- The order of the UTF-8 bytes. -/
def compareText (a b : String) : Ordering := compare (utf8Bytes a) (utf8Bytes b)

namespace Value

/-! ## Numbers -/

/-- The order of two numbers; other values and a NaN have none. -/
def compareNumbers? : Value → Value → Option Ordering
  | .integer m, .integer n => some (compare m.toInt n.toInt)
  | .integer n, .float x => Binary64.compareInt? n.toInt x
  | .float x, .integer n => x.compareToInt? n.toInt
  | .float x, .float y => Binary64.compare? x y
  | _, _ => none

/-- The value is an integer or a floating-point number. -/
def isNumber : Value → Bool
  | .integer _ => true
  | .float _ => true
  | _ => false

theorem isNumber_of_compareNumbers? {a b : Value} {o : Ordering}
    (h : compareNumbers? a b = some o) : a.isNumber = true ∧ b.isNumber = true := by
  cases a <;> cases b <;> simp_all [compareNumbers?, isNumber]

/-! ## All values -/

/-- The order of two values, where they have one. -/
def compare? : Value → Value → Option Ordering
  | .string s, .string t => some (compareText s t)
  | a, b => compareNumbers? a b

/-- Two values whose kinds can be ordered: two strings or two numbers. -/
def hasOrderWith : Value → Value → Bool
  | .string _, .string _ => true
  | a, b => a.isNumber && b.isNumber

/-- Only values of orderable kinds have an order. -/
theorem hasOrderWith_of_compare? {a b : Value} {o : Ordering} (h : compare? a b = some o) :
    a.hasOrderWith b = true := by
  cases a <;> cases b <;> simp_all [compare?, compareNumbers?, hasOrderWith, isNumber]

end Value

end TemplateExpr
