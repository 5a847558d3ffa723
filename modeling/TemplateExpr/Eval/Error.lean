/-
# Evaluation errors

Why an expression has no value: a name without a binding, operands of the wrong kinds, a filter
that does not exist, or a filter that refuses its input.
-/
import TemplateExpr.Context.Filter
import TemplateExpr.Expr.Operator
import TemplateExpr.Token.Basic

namespace TemplateExpr

/-- An operation that not all operands suit. -/
inductive Operation where
  | compare (op : Comparison)
  | logical (op : Connective)
  | contains
deriving DecidableEq, Inhabited

/-- What messages call an operation. -/
def Operation.name : Operation → String
  | .compare op => op.symbol
  | .logical op => op.word
  | .contains => "contains"

/-- What is wrong with operands. -/
inductive Mismatch where
  /-- The operation does not apply to these two kinds. -/
  | inapplicable (left right : Kind)
  /-- One operand is of another kind than the operation needs. -/
  | wrongKind (wanted found : Kind)
deriving DecidableEq, Inhabited

/-- The description of a mismatch. -/
def Mismatch.detail : Mismatch → String
  | .inapplicable left right => "cannot apply to " ++ left.name ++ " and " ++ right.name
  | .wrongKind wanted found => "expected " ++ wanted.name ++ ", found " ++ found.name

/-- Why an expression has no value. -/
inductive EvaluationError where
  /-- A name has no binding. -/
  | unbound (name : String)
  /-- An operation does not apply to its operands. -/
  | mismatch (operation : Operation) (reason : Mismatch)
  /-- There is no filter of this name. -/
  | unknownFilter (name : String)
  /-- A filter refuses its input. -/
  | refused (filter : String) (source : Refusal)
deriving DecidableEq, Inhabited

/-- The message for an error. -/
def EvaluationError.message : EvaluationError → String
  | .unbound name => "unbound variable " ++ Token.ticked name
  | .mismatch operation reason =>
    "type mismatch in " ++ Token.ticked operation.name ++ ": " ++ reason.detail
  | .unknownFilter name => "unknown filter " ++ Token.ticked name
  | .refused filter source =>
    "filter " ++ Token.ticked filter ++ " failed: " ++ source.message

end TemplateExpr
