/-
# Counting levels

A parser stands at a token of a source and counts the levels that it has entered.  Each operator is
a step of it: the step first takes the operands of the next tighter operator, then goes on with its
own links.  To enter a level makes the counter greater by one and fails when the limit is passed.  A
chain and an expression put the counter back to where it was before them, but only if they succeed:
a step that fails leaves the counter as high as it was at that moment.

Main statements:
* `descend_of_le`, `descend_of_lt`: a level is entered below the limit only;
* `restoring_of_ok`, `restoring_of_error`: the counter is put back on success only.
-/
import TemplateExpr.Expr.Parse
import TemplateExpr.Expr.SyntaxError

namespace TemplateExpr

/-- A source under way, of which the first token has been read. -/
structure Parser where
  /-- The place in the source. -/
  cursor : Cursor
  /-- The number of levels that may be entered at once. -/
  limit : Nat
  /-- The number of levels that are entered. -/
  depth : Nat

/-- A step of a parser: it changes the parser, also when it fails. -/
abbrev Descent (α : Type) : Type := EStateM SyntaxError Parser α

namespace Descent

variable {α β : Type}

/-- A sequence goes on with the parser that its first step leaves. -/
theorem bind_of_ok {x : Descent α} {f : α → Descent β} {p p' : Parser} {a : α}
    (h : x p = .ok a p') : (x >>= f) p = f a p' := by
  simp only [bind, EStateM.bind, h]

/-- A sequence fails where its first step does. -/
theorem bind_of_error {x : Descent α} {f : α → Descent β} {p p' : Parser} {e : SyntaxError}
    (h : x p = .error e p') : (x >>= f) p = .error e p' := by
  simp only [bind, EStateM.bind, h]

/-! ## Tokens -/

/-- The token under the cursor. -/
def peek : Descent Token := do return (← get).cursor.current.item

/-- Looking at the token leaves the parser as it is. -/
theorem peek_run (p : Parser) : peek p = .ok p.cursor.current.item p := rfl

/-- Moves on to the next token, or fails with the one that cannot be read. -/
def advance : Descent Unit := fun p =>
  match p.cursor.ahead.head with
  | .ok token => .ok () { p with cursor := ⟨token, p.cursor.ahead.tail⟩ }
  | .error e => .error (.lexical e) { p with cursor := ⟨p.cursor.current, p.cursor.ahead.tail⟩ }

/-- Fails because the token under the cursor is not what is needed. -/
def fail (wanted : Expectation) : Descent α := do
  throw (.missing wanted (← get).cursor.current)

/-- Moves past the given token. -/
def expect (token : Token) (wanted : Expectation) : Descent Unit := do
  if (← peek) = token then advance else fail wanted

/-! ## Levels -/

/-- Enters a level, and fails when the limit is passed. -/
def descend : Descent Unit := do
  modify fun p => { p with depth := p.depth + 1 }
  let p ← get
  if p.limit < p.depth then throw (.tooDeep p.limit p.cursor.current.position)

/-- Puts the counter back to where it was before the step, if the step succeeds. -/
def restoring (x : Descent α) : Descent α := do
  let saved := (← get).depth
  let a ← x
  modify fun p => { p with depth := saved }
  return a

/-- At the limit no level is entered, though the counter goes on. -/
theorem descend_of_le {p : Parser} (h : p.limit ≤ p.depth) : descend p =
    .error (.tooDeep p.limit p.cursor.current.position) { p with depth := p.depth + 1 } := by
  show (if p.limit < p.depth + 1 then throw _ else pure () : Descent Unit) _ = _
  rw [if_pos (Nat.lt_succ_of_le h)]
  rfl

/-- Below the limit a level is entered. -/
theorem descend_of_lt {p : Parser} (h : p.depth < p.limit) :
    descend p = .ok () { p with depth := p.depth + 1 } := by
  show (if p.limit < p.depth + 1 then throw _ else pure () : Descent Unit) _ = _
  rw [if_neg (Nat.not_lt_of_le h)]
  rfl

/-- A step that succeeds leaves the levels that it has entered. -/
theorem restoring_of_ok {x : Descent α} {p p' : Parser} {a : α} (h : x p = .ok a p') :
    restoring x p = .ok a { p' with depth := p.depth } := by
  show (x >>= _) p = _
  rw [bind_of_ok h]
  rfl

/-- A step that fails stays in its levels. -/
theorem restoring_of_error {x : Descent α} {p p' : Parser} {e : SyntaxError}
    (h : x p = .error e p') : restoring x p = .error e p' := by
  show (x >>= _) p = _
  rw [bind_of_error h]

/-! ## Chains -/

/-- What continues a chain at a token: given the expression so far, a step from the token on. -/
abbrev Link : Type := Token → Option (Expr → Descent Expr)

/-- Takes links as long as there are any, and enters a level for each.  There are more rounds than
levels left, so the last one fails when it enters its level. -/
def links (link : Link) : Nat → Expr → Descent Expr
  | 0, left => return left
  | rounds + 1, left => do
    match link (← peek) with
    | none => return left
    | some read =>
      descend
      links link rounds (← read left)

/-- An expression with the links that follow it. -/
def chain (link : Link) (first : Descent Expr) : Descent Expr := restoring do
  let left ← first
  let p ← get
  links link (p.limit - p.depth + 1) left

/-- The link made by an operator with a right operand. -/
def operatorLink (node? : Token → Option (Expr → Expr → Expr)) (operand : Descent Expr) : Link :=
  fun token =>
    (node? token).map fun node left => do
      advance
      return node left (← operand)

/-- Takes operands as long as the connective stands before them, but no more than `bound`. -/
def operands (op : Connective) (operand : Descent Expr) : Nat → Descent (List Expr)
  | 0 => return []
  | bound + 1 => do
    if (← peek) = .logical op then
      advance
      let e ← operand
      return e :: (← operands op operand bound)
    else return []

/-- The operands of a connective enter no level.  There cannot be more of them than tokens ahead. -/
def flat (op : Connective) (operand : Descent Expr) : Descent Expr := do
  let first ← operand
  if (← peek) = .logical op then
    let bound := (← get).cursor.ahead.ahead.length + 1
    return .logical op (first :: (← operands op operand bound))
  else return first

/-! ## The operators -/

section

variable (nested : Descent Expr)

/-- A literal, a variable or a group. -/
def primary : Descent Expr := do
  let token ← peek
  match Parse.literal? token, token with
  | some value, _ =>
    advance
    return .literal value
  | none, .identifier name =>
    advance
    return .var name
  | none, .openParen =>
    advance
    let inner ← nested
    expect .closeParen .closingParen
    return .group inner
  | none, _ => fail .expression

/-- An attribute behind a point, or an index between brackets. -/
def accessLink : Link
  | .dot => some fun object => do
    advance
    match (← peek).word? with
    | some name =>
      advance
      return .field object name
    | none => fail .attributeName
  | .openBracket => some fun object => do
    advance
    let place ← nested
    expect .closeBracket .closingBracket
    return .index object place
  | _ => none

/-- A filter behind a pipe. -/
def filterLink : Link
  | .pipe => some fun input => do
    advance
    match (← peek) with
    | .identifier name =>
      advance
      return .filter input name []
    | _ => fail .filterName
  | _ => none

/-- A primary expression with attributes and indices. -/
def access : Descent Expr := chain (accessLink nested) (primary nested)

/-- The same with filters. -/
def filtered : Descent Expr := chain filterLink (access nested)

/-- Operands joined by operators that ask for an order. -/
def ordering : Descent Expr :=
  chain (operatorLink Parse.orderNode? (filtered nested)) (filtered nested)

/-- Operands joined by operators that ask for equality. -/
def equality : Descent Expr :=
  chain (operatorLink Parse.equalityNode? (ordering nested)) (ordering nested)

/-- Operands joined by `contains`. -/
def containment : Descent Expr :=
  chain (operatorLink Parse.containmentNode? (equality nested)) (equality nested)

/-- Operands joined by `and`. -/
def conjunction : Descent Expr := flat .and (containment nested)

/-- Operands joined by `or`. -/
def disjunction : Descent Expr := flat .or (conjunction nested)

end

/-! ## Expressions -/

/-- Expressions with at most the given number of expressions inside each other. -/
def expressionUpTo : Nat → Descent Expr
  | 0 => restoring do
    descend
    fail .expression
  | count + 1 => restoring do
    descend
    disjunction (expressionUpTo count)

/-- Expressions.  Each one inside another one enters a level, so there are no more of them than
levels left: the innermost one fails when it enters its level. -/
def expression : Descent Expr := do
  let p ← get
  expressionUpTo (p.limit - p.depth)

end Descent

end TemplateExpr
