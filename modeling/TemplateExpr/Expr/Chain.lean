/-
# Chains

An expression goes on as long as the next token links something to it.  In a deep chain every link
takes the whole expression so far for its left part, so the chain leans to the left, and each
link is one level deeper than the one before.  A flat chain collects the operands of one
connective on a single level.

Main statements:
* `links_of_none`, `links_zero`, `links_succ`: a deep chain, link by link;
* `flat_of_ne`: an expression without the connective behind it is no chain.
-/
import TemplateExpr.Expr.Cursor

namespace TemplateExpr

namespace Parse

/-! ## Deep chains -/

/-- What continues a chain at a token: given the expression so far, a parser from the token on. -/
abbrev Link : Type := Token → Option (Expr → Nat → Parse Expr)

/-- Takes links as long as there are any, each one level deeper. -/
def links (link : Link) : Nat → Expr → Parse Expr
  | 0, left => do
    match link (← peek) with
    | none => return left
    | some _ => enterTooDeep
  | budget + 1, left => do
    match link (← peek) with
    | none => return left
    | some read => within (do links link budget (← read left budget))

theorem links_of_none {link : Link} {c : Cursor} (h : link c.current.item = none) (budget : Nat)
    (left : Expr) : links link budget left c = .ok left c := by
  cases budget <;> rw [links, bind_of_ok (peek_run c), h] <;> rfl

theorem links_zero {link : Link} {c : Cursor} {read : Expr → Nat → Parse Expr}
    (h : link c.current.item = some read) (left : Expr) :
    links link 0 left c = enterTooDeep c := by
  rw [links, bind_of_ok (peek_run c), h]

theorem links_succ {link : Link} {c : Cursor} {read : Expr → Nat → Parse Expr}
    (h : link c.current.item = some read) (budget : Nat) (left : Expr) :
    links link (budget + 1) left c = within (read left budget >>= links link budget) c := by
  rw [links, bind_of_ok (peek_run c), h]

/-- An expression with the links that follow it. -/
def chain (link : Link) (first : Nat → Parse Expr) (budget : Nat) : Parse Expr := do
  links link budget (← first budget)

/-- The link made by an operator with a right operand. -/
def operatorLink (node? : Token → Option (Expr → Expr → Expr)) (operand : Nat → Parse Expr) :
    Link := fun token =>
  (node? token).map fun node left budget => do
    advance
    return node left (← operand budget)

/-! ## Flat chains -/

/-- Takes operands as long as the connective stands before them, but no more than `bound`. -/
def operands (op : Connective) (operand : Parse Expr) : Nat → Parse (List Expr)
  | 0 => return []
  | bound + 1 => do
    if (← peek) = .logical op then
      advance
      let e ← operand
      return e :: (← operands op operand bound)
    else return []

theorem operands_of_ne {op : Connective} {c : Cursor} (h : c.current.item ≠ .logical op)
    (operand : Parse Expr) (bound : Nat) : operands op operand bound c = .ok [] c := by
  cases bound with
  | zero => rfl
  | succ bound =>
    rw [operands, bind_of_ok (peek_run c), if_neg h]
    rfl

/-- A flat chain: a single operand stands for itself.  There cannot be more operands than tokens
ahead. -/
def flat (op : Connective) (operand : Nat → Parse Expr) (budget : Nat) : Parse Expr := do
  let first ← operand budget
  if (← peek) = .logical op then
    let bound := (← get).ahead.ahead.length + 1
    return .logical op (first :: (← operands op (operand budget) bound))
  else return first

theorem flat_of_ne {op : Connective} {operand : Nat → Parse Expr} {budget : Nat} {c c' : Cursor}
    {e : Expr} (h : operand budget c = .ok e c') (hne : c'.current.item ≠ .logical op) :
    flat op operand budget c = .ok e c' := by
  rw [flat, bind_of_ok h, bind_of_ok (peek_run c'), if_neg hne]
  rfl

end Parse

end TemplateExpr
