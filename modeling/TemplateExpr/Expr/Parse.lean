/-
# Parsing expressions

From the loosest to the tightest, the operators are: `or`, `and`, `contains`, equality, order,
filters, access.  Chains of `or` and of `and` are flat, all others are deep; the inside of a group
and of an index is an expression of its own and one level deeper.  A budget says how many
levels may still be entered.

The operators are parsers over a parser for nested expressions; closing the circle gives
`expression`.

Main statements:
* `expression_zero`: without a budget there is no expression;
* `entered_pos_of_expression`: an expression that cannot be parsed leaves a level entered.
-/
import TemplateExpr.Expr.Chain

namespace TemplateExpr

namespace Parse

/-! ## Tokens of expressions -/

/-- The value of a token that is a literal. -/
def literal? : Token → Option Value
  | .integer n => some (.integer n)
  | .float x => some (.float x)
  | .string s => some (.string s)
  | .boolean b => some (.boolean b)
  | .nil => some .nil
  | _ => none

/-- The operator that asks whether something is part of something else. -/
def containmentNode? : Token → Option (Expr → Expr → Expr)
  | .contains => some .contains
  | _ => none

/-- The operators that ask for equality. -/
def equalityNode? : Token → Option (Expr → Expr → Expr)
  | .compare op => if op.asksEquality then some (.compare op) else none
  | _ => none

/-- The operators that ask for an order. -/
def orderNode? : Token → Option (Expr → Expr → Expr)
  | .compare op => if op.asksEquality then none else some (.compare op)
  | _ => none

/-! ## The operators -/

section

variable (nested : Nat → Parse Expr)

/-- A literal, a variable or a group. -/
def primary (budget : Nat) : Parse Expr := do
  let token ← peek
  match literal? token, token with
  | some value, _ => do
    advance
    return .literal value
  | none, .identifier name => do
    advance
    return .var name
  | none, .openParen => do
    advance
    let inner ← nested budget
    expect .closeParen .closingParen
    return .group inner
  | none, _ => stop (.missing .expression)

/-- An attribute behind a point, or an index between brackets. -/
def accessLink : Link
  | .dot => some fun object _ => do
    advance
    match (← peek).word? with
    | some name => do
      advance
      return .field object name
    | none => stop (.missing .attributeName)
  | .openBracket => some fun object budget => do
    advance
    let place ← nested budget
    expect .closeBracket .closingBracket
    return .index object place
  | _ => none

/-- A filter behind a pipe. -/
def filterLink : Link
  | .pipe => some fun input _ => do
    advance
    match (← peek) with
    | .identifier name => do
      advance
      return .filter input name []
    | _ => stop (.missing .filterName)
  | _ => none

/-- A primary expression with attributes and indices. -/
def access : Nat → Parse Expr := chain (accessLink nested) (primary nested)

/-- The same with filters. -/
def filtered : Nat → Parse Expr := chain filterLink (access nested)

/-- Operands joined by operators that ask for an order. -/
def ordering : Nat → Parse Expr :=
  chain (operatorLink orderNode? (filtered nested)) (filtered nested)

/-- Operands joined by operators that ask for equality. -/
def equality : Nat → Parse Expr :=
  chain (operatorLink equalityNode? (ordering nested)) (ordering nested)

/-- Operands joined by `contains`. -/
def containment : Nat → Parse Expr :=
  chain (operatorLink containmentNode? (equality nested)) (equality nested)

/-- Operands joined by `and`. -/
def conjunction : Nat → Parse Expr := flat .and (containment nested)

/-- Operands joined by `or`. -/
def disjunction : Nat → Parse Expr := flat .or (conjunction nested)

end

/-! ## Expressions -/

/-- Expressions with at most the given number of expressions inside each other. -/
def expressionUpTo : Nat → Nat → Parse Expr
  | 0 => fun _ => enterTooDeep
  | count + 1 => nest (disjunction (expressionUpTo count))

/-- Expressions: since every expression inside another one costs a level, there are no more of
them than the budget. -/
def expression (budget : Nat) : Parse Expr := expressionUpTo budget budget

theorem expression_zero : expression 0 = enterTooDeep := rfl

/-- An expression that cannot be parsed leaves at least its own level entered. -/
theorem entered_pos_of_expression {budget : Nat} {c c' : Cursor} {f : Failure}
    (h : expression budget c = .error f c') : 0 < f.entered := by
  cases budget with
  | zero =>
    rw [expression_zero] at h
    exact entered_pos_of_within h
  | succ budget =>
    rw [expression, expressionUpTo, nest] at h
    exact entered_pos_of_within h

end Parse

end TemplateExpr
