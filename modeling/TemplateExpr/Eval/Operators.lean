/-
# Operators on values

What the operators make of two values.  Equality never fails; an order is only defined between
two numbers or two strings, and where one of the numbers is a NaN no order holds.  A string can
contain strings, a list any values.
-/
import TemplateExpr.Eval.Error
import TemplateExpr.Text.Substring
import TemplateExpr.Value.Equality

namespace TemplateExpr

namespace Value

/-- Whether a comparison holds between two values. -/
def compareWith (op : Comparison) (left right : Value) : Except EvaluationError Bool :=
  match op with
  | .equal => .ok (left.equals right)
  | .notEqual => .ok (!left.equals right)
  | op =>
    if left.hasOrderWith right then .ok ((left.compare? right).any op.holds)
    else .error (.mismatch (.compare op) (.inapplicable left.kind right.kind))

/-- Whether the right value is part of the left one. -/
def containsValue (left right : Value) : Except EvaluationError Bool :=
  match left, right with
  | .string s, .string t => .ok (Text.occursIn t.toList s.toList)
  | .string _, other => .error (.mismatch .contains (.wrongKind .string other.kind))
  | .list items, other => .ok (items.any (·.equals other))
  | other, other' => .error (.mismatch .contains (.inapplicable other.kind other'.kind))

/-- The truth value of an operand of a connective. -/
def truth (op : Connective) (v : Value) : Except EvaluationError Bool :=
  match v with
  | .boolean b => .ok b
  | other => .error (.mismatch (.logical op) (.wrongKind .boolean other.kind))

end Value

end TemplateExpr
