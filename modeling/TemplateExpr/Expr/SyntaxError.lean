/-
# Syntax errors

Why a source is no expression, where that is seen, and what is said about it.
-/
import TemplateExpr.Expr.Cursor

namespace TemplateExpr

/-- Why a source is no expression. -/
inductive SyntaxError where
  /-- A token cannot be read. -/
  | lexical (e : LexicalError)
  /-- Another token was needed. -/
  | wrongToken (wanted : Expectation) (found : Token) (position : Position)
  /-- More was needed at the end of the source. -/
  | sourceEnded (wanted : Expectation) (position : Position)
  /-- The expression is nested too deeply. -/
  | tooDeep (limit : Nat) (position : Position)
deriving DecidableEq, Inhabited

namespace SyntaxError

/-- Where the error was met. -/
def position : SyntaxError → Position
  | .lexical e => e.position
  | .wrongToken _ _ p => p
  | .sourceEnded _ p => p
  | .tooDeep _ p => p

/-- The message for an error. -/
def message : SyntaxError → String
  | .lexical e => e.message
  | .wrongToken wanted found p =>
    "expected " ++ wanted.text ++ ", found " ++ found.label ++ " at " ++ p.text
  | .sourceEnded wanted p => "expected " ++ wanted.text ++ ", found end of input at " ++ p.text
  | .tooDeep limit p =>
    "expression nests deeper than " ++ toString limit ++ " levels at " ++ p.text

/-- The error for something that is missing at the token under the cursor. -/
def missing (wanted : Expectation) (found : Located Token) : SyntaxError :=
  if found.item = .endOfSource then .sourceEnded wanted found.position
  else .wrongToken wanted found.item found.position

theorem missing_ne_lexical (wanted : Expectation) (found : Located Token) (e : LexicalError) :
    missing wanted found ≠ .lexical e := by
  unfold missing
  split <;> simp

theorem missing_ne_tooDeep (wanted : Expectation) (found : Located Token) (limit : Nat)
    (p : Position) : missing wanted found ≠ .tooDeep limit p := by
  unfold missing
  split <;> simp

/-- The error for a parser that gave up at the given token. -/
def ofStop (limit : Nat) (current : Located Token) : Stop → SyntaxError
  | .lexical e => .lexical e
  | .missing wanted => missing wanted current
  | .tooDeep => .tooDeep limit current.position

end SyntaxError

end TemplateExpr
