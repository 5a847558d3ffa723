/-
# Evaluation

The value of an expression in a context.  An expression is evaluated either for itself or as the
base of an access; the difference is only seen by a name without a binding, which the strict
policy takes for nil in a base, and it reaches the name through parentheses and through the objects
of accesses, but not into an index.

Main statements:
* `evalAs_group`: parentheses change nothing;
* `evalOperands_cons`: the operands of a connective are evaluated up to the first that settles it.
-/
import TemplateExpr.Context.Basic
import TemplateExpr.Eval.Access
import TemplateExpr.Eval.Operators
import TemplateExpr.Eval.Traced
import TemplateExpr.Expr.Basic

namespace TemplateExpr

/-- What an expression is evaluated for. -/
inductive Role where
  /-- Its own value. -/
  | itself
  /-- Access to a part of its value. -/
  | base
deriving DecidableEq, Inhabited

/-- An evaluation. -/
abbrev Eval (α : Type) : Type := Traced EvaluationError α

/-- Applies a filter and records the call. -/
def callFilter (name : String) (filter : Filter) (input : Value) (args : List Value) :
    Eval Value :=
  ⟨(filter input args).mapError (.refused name), [⟨name, input, args⟩]⟩

namespace Context

/-! ## Names -/

/-- A name without a binding is nil in the given role. -/
def readsNil (c : Context) (role : Role) : Bool :=
  match c.config.unbound, role with
  | .lenient, _ => true
  | .strict, .base => true
  | .strict, .itself => false
  | .error, _ => false

/-- The value that a name has in the given role. -/
def lookup (c : Context) (role : Role) (name : String) : Except EvaluationError Value :=
  match c.get? name with
  | some value => .ok value
  | none => if c.readsNil role then .ok .nil else .error (.unbound name)

/-! ## Expressions -/

mutual

/-- The value of an expression in the given role. -/
def evalAs (c : Context) : Role → Expr → Eval Value
  | _, .literal value => pure value
  | role, .var name => .ofExcept (c.lookup role name)
  | _, .field object name => do
    return (← evalAs c .base object).field name
  | _, .index object place => do
    let base ← evalAs c .base object
    return base.element (← evalAs c .itself place)
  | role, .group inner => evalAs c role inner
  | _, .compare op left right => do
    let l ← evalAs c .itself left
    let r ← evalAs c .itself right
    return .boolean (← .ofExcept (l.compareWith op r))
  | _, .logical op operands => evalOperands c op operands
  | _, .contains left right => do
    let l ← evalAs c .itself left
    let r ← evalAs c .itself right
    return .boolean (← .ofExcept (l.containsValue r))
  | _, .filter input name args => do
    let v ← evalAs c .itself input
    match c.config.filter? name with
    | none => .fail (.unknownFilter name)
    | some filter => do
      let vs ← evalArgs c args
      callFilter name filter v vs

/-- The value of a chain of operands: they are evaluated up to the first that is decisive, and
without one the operator gives the other truth value. -/
def evalOperands (c : Context) (op : Connective) : List Expr → Eval Value
  | [] => pure (.boolean (!op.decisive))
  | e :: es => do
    let v ← evalAs c .itself e
    let b ← .ofExcept (v.truth op)
    if b = op.decisive then return .boolean b else evalOperands c op es

/-- The values of arguments, the first one first. -/
def evalArgs (c : Context) : List Expr → Eval (List Value)
  | [] => pure []
  | e :: es => do
    let v ← evalAs c .itself e
    let vs ← evalArgs c es
    return v :: vs

end

theorem evalAs_group (c : Context) (role : Role) (inner : Expr) :
    c.evalAs role (.group inner) = c.evalAs role inner := by
  rw [evalAs]

theorem evalOperands_cons (c : Context) (op : Connective) (e : Expr) (es : List Expr) :
    c.evalOperands op (e :: es) = (do
      let v ← c.evalAs .itself e
      let b ← .ofExcept (v.truth op)
      if b = op.decisive then return .boolean b else c.evalOperands op es) := by
  rw [evalOperands]

/-- The value of an expression. -/
def eval (c : Context) (e : Expr) : Eval Value := c.evalAs .itself e

end Context

end TemplateExpr
