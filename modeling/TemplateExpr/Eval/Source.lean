/-
# Evaluation of sources

A source is parsed and evaluated in one step, or parsed once and evaluated with bindings that
change: a closure keeps an expression together with a context.

Main statements:
* `eval_bind`: a closure sees what was bound to its names last.
-/
import TemplateExpr.Eval.Basic
import TemplateExpr.Expr.Session

namespace TemplateExpr

/-! ## Sources -/

/-- Why a source has no value. -/
inductive SourceError where
  | parse (e : SyntaxError)
  | eval (e : EvaluationError)
deriving DecidableEq, Inhabited

namespace SourceError

/-- The message for an error. -/
def message : SourceError → String
  | .parse e => e.message
  | .eval e => e.message

/-- The error of a source whose tokens cannot be read. -/
def ofLexical (e : LexicalError) : SourceError := .parse (.lexical e)

end SourceError

/-- The value of a source in a context. -/
def evaluate (source : String) (c : Context) : Traced SourceError Value :=
  match parse source with
  | .ok e => (c.eval e).mapError .eval
  | .error e => .fail (.parse e)

/-! ## Closures -/

/-- An expression with the context in which it is evaluated. -/
structure Closure where
  /-- The expression. -/
  expr : Expr
  /-- The context. -/
  context : Context
deriving Inhabited

namespace Closure

/-- A closure over the expression that a source is. -/
def parse (source : String) (c : Context) : Except SyntaxError Closure :=
  (TemplateExpr.parse source).map (⟨·, c⟩)

/-- The closure in which `name` has the given value. -/
def bind (k : Closure) (name : String) (value : Value) : Closure :=
  { k with context := k.context.bind name value }

/-- The value of a closure. -/
def eval (k : Closure) : Eval Value := k.context.eval k.expr

theorem eval_bind (k : Closure) (name : String) (value : Value) :
    (k.bind name value).eval = (k.context.bind name value).eval k.expr := rfl

end Closure

end TemplateExpr
