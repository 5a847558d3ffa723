/-
# Parsing sessions

A source can be parsed as one expression, or expression by expression with a parser that keeps its
place.  After a failed call the parser stands where it gave up, and the levels that it had
entered stay entered.

Main statements:
* `expression_eq`: the levels that are left are a budget;
* `expression_depth_of_ok`: a successful call leaves all levels that it entered;
* `expression_depth_of_error`: a failed call stays in at least one of them.
-/
import TemplateExpr.Expr.Counting
import TemplateExpr.Token.Scanner

namespace TemplateExpr

/-! ## Parsers -/

/-- The number of levels that may be entered unless another one is given. -/
def defaultLimit : Nat := 256

namespace Parser

/-- A parser at the next token of a scanner. -/
def ofScanner (limit : Nat) (s : Scanner) : Except SyntaxError Parser :=
  match s.next with
  | (.ok token, rest) => .ok ⟨⟨token, rest.stream⟩, limit, 0⟩
  | (.error e, _) => .error (.lexical e)

/-- The next expression. -/
def expression (p : Parser) : Except SyntaxError Expr × Parser :=
  match Descent.expression p with
  | .ok e p' => (.ok e, p')
  | .error e p' => (.error e, p')

/-- The next expression, behind which the source must end. -/
def lastExpression (p : Parser) : Except SyntaxError Expr × Parser :=
  match p.expression with
  | (.ok e, p') =>
    if p'.cursor.current.item = .endOfSource then (.ok e, p')
    else (.error (.missing .endOfSource p'.cursor.current), p')
  | failed => failed

/-- The levels that are left are a budget, and the counter goes on by the levels that are entered
and not left. -/
theorem expression_eq (p : Parser) : p.expression =
    match Parse.expression (p.limit - p.depth) p.cursor with
    | .ok e c => (.ok e, { p with cursor := c })
    | .error f c =>
      (.error (.ofStop p.limit c.current f.stop),
        { p with cursor := c, depth := p.depth + f.entered }) := by
  rw [expression, Descent.expression_run]
  cases Parse.expression (p.limit - p.depth) p.cursor <;> rfl

/-- A successful call leaves all levels that it entered. -/
theorem expression_depth_of_ok {p p' : Parser} {e : Expr} (h : p.expression = (.ok e, p')) :
    p'.depth = p.depth := by
  rw [expression_eq] at h
  split at h
  · simp only [Prod.mk.injEq] at h
    rw [← h.2]
  · simp at h

/-- A failed call stays in at least one of the levels that it entered. -/
theorem expression_depth_of_error {p p' : Parser} {err : SyntaxError}
    (h : p.expression = (.error err, p')) : p.depth < p'.depth := by
  rw [expression_eq] at h
  split at h
  · simp at h
  · rename_i f c hf
    simp only [Prod.mk.injEq] at h
    rw [← h.2]
    have := Parse.entered_pos_of_expression hf
    dsimp only
    omega

end Parser

/-! ## Sources -/

/-- The expression that a source is, if no more than `limit` levels are nested in it. -/
def parseWithin (limit : Nat) (source : String) : Except SyntaxError Expr := do
  (← Parser.ofScanner limit (Scanner.ofSource source)).lastExpression.1

/-- The expression that a source is. -/
def parse (source : String) : Except SyntaxError Expr := parseWithin defaultLimit source

end TemplateExpr
