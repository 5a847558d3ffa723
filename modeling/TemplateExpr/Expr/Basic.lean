/-
# Expressions

The tree of an expression.  A chain of operands that are joined by one logical operator is a
single node; every other operator has two operands.  A filter can have arguments, though no
source can give it any.

Main statements:
* `induct`: induction over an expression and the expressions in its lists.
-/
import TemplateExpr.Expr.Operator
import TemplateExpr.Value.Equality

namespace TemplateExpr

/-- An expression. -/
inductive Expr where
  | literal (value : Value)
  /-- A name that a context may bind. -/
  | var (name : String)
  /-- What stands under a name in a map, or the first item, the last item or the size. -/
  | field (object : Expr) (name : String)
  /-- What stands at a place in a list or a string. -/
  | index (object place : Expr)
  /-- An expression between parentheses. -/
  | group (inner : Expr)
  | compare (op : Comparison) (left right : Expr)
  | logical (op : Connective) (operands : List Expr)
  /-- Whether the right operand is part of the left one. -/
  | contains (left right : Expr)
  /-- A filter applied to its input and, possibly, arguments. -/
  | filter (input : Expr) (name : String) (args : List Expr)
deriving Inhabited

namespace Expr

/-! ## Depth -/

mutual

/-- The number of nodes on the longest way down. -/
def depth : Expr → Nat
  | .literal _ => 1
  | .var _ => 1
  | .field object _ => 1 + depth object
  | .index object place => 1 + max (depth object) (depth place)
  | .group inner => 1 + depth inner
  | .compare _ left right => 1 + max (depth left) (depth right)
  | .logical _ operands => 1 + maxDepth operands
  | .contains left right => 1 + max (depth left) (depth right)
  | .filter input _ args => 1 + max (depth input) (maxDepth args)

/-- The depth of the deepest of some expressions, or zero if there are none. -/
def maxDepth : List Expr → Nat
  | [] => 0
  | e :: es => max (depth e) (maxDepth es)

end

/-! ## Identity -/

mutual

/-- The expressions have the same form and identical literals. -/
def identical : Expr → Expr → Bool
  | .literal v, .literal w => v.identical w
  | .var m, .var n => m == n
  | .field o m, .field o' n => identical o o' && m == n
  | .index o p, .index o' p' => identical o o' && identical p p'
  | .group e, .group e' => identical e e'
  | .compare op l r, .compare op' l' r' => op == op' && identical l l' && identical r r'
  | .logical op es, .logical op' es' => op == op' && identicalAll es es'
  | .contains l r, .contains l' r' => identical l l' && identical r r'
  | .filter e n es, .filter e' n' es' => identical e e' && n == n' && identicalAll es es'
  | _, _ => false

/-- The expressions of two lists are identical one by one. -/
def identicalAll : List Expr → List Expr → Bool
  | [], [] => true
  | e :: es, e' :: es' => identical e e' && identicalAll es es'
  | _, _ => false

end

/-! ## Induction -/

/-- Induction over an expression, the operands of its chains and the arguments of its filters. -/
@[elab_as_elim] theorem induct {motive : Expr → Prop} (literal : ∀ v, motive (.literal v))
    (var : ∀ n, motive (.var n))
    (field : ∀ object name, motive object → motive (.field object name))
    (index : ∀ object place, motive object → motive place → motive (.index object place))
    (group : ∀ inner, motive inner → motive (.group inner))
    (compare : ∀ op left right, motive left → motive right → motive (.compare op left right))
    (logical : ∀ op operands, (∀ e ∈ operands, motive e) → motive (.logical op operands))
    (contains : ∀ left right, motive left → motive right → motive (.contains left right))
    (filter : ∀ input name args, motive input → (∀ e ∈ args, motive e) →
      motive (.filter input name args))
    (e : Expr) : motive e :=
  Expr.rec (motive_1 := motive) (motive_2 := fun es => ∀ e ∈ es, motive e)
    literal var field index group compare logical contains filter (by simp)
    (fun _ _ hhead htail => by
      intro e he
      rcases List.mem_cons.1 he with rfl | he
      · exact hhead
      · exact htail e he) e

end Expr

end TemplateExpr
