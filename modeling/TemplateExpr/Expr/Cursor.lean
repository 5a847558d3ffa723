/-
# Cursors

Parsing goes through a stream of tokens with a cursor: the token under it and the stream behind
it.  A parser moves the cursor and may give up; the cursor then stays where it is, so that one can
see at which token the parser gave up, and go on from there.

Beside the reason for giving up a parser says how many levels of nesting it had entered and not
yet left.

Main statements:
* `advance_of_ok`, `advance_of_error`: moving on needs a token that can be read;
* `within_of_ok`, `within_of_error`: a level only counts for a parser that gives up inside.
-/
import TemplateExpr.Expr.Basic
import TemplateExpr.Token.Stream

namespace TemplateExpr

/-- A place in a stream of tokens. -/
structure Cursor where
  /-- The token at the place. -/
  current : Located Token
  /-- The stream behind it. -/
  ahead : TokenStream

/-! ## Giving up -/

/-- What a parser can miss. -/
inductive Expectation where
  | expression
  | closingParen
  | closingBracket
  | attributeName
  | filterName
  | endOfSource
deriving DecidableEq, Inhabited

/-- What messages call something that is missing. -/
def Expectation.text : Expectation → String
  | .expression => "an expression"
  | .closingParen => Token.ticked ")" ++ " to close group"
  | .closingBracket => Token.ticked "]" ++ " to close index"
  | .attributeName => "attribute name after " ++ Token.ticked "."
  | .filterName => "filter name after " ++ Token.ticked "|"
  | .endOfSource => "end of input"

/-- Why a parser gives up. -/
inductive Stop where
  /-- The token behind the cursor cannot be read. -/
  | lexical (e : LexicalError)
  /-- The token under the cursor is not what is needed. -/
  | missing (wanted : Expectation)
  /-- One more level of nesting would be too many. -/
  | tooDeep
deriving DecidableEq, Inhabited

/-- How a parser gives up. -/
structure Failure where
  /-- The reason. -/
  stop : Stop
  /-- The number of levels that were entered and not left. -/
  entered : Nat
deriving DecidableEq, Inhabited

/-- A parser: it moves the cursor, also when it gives up. -/
abbrev Parse (α : Type) : Type := EStateM Failure Cursor α

namespace Parse

variable {α β : Type}

/-- Gives up. -/
def stop (s : Stop) : Parse α := throw ⟨s, 0⟩

/-- Giving up leaves the cursor where it is. -/
theorem stop_run (s : Stop) (c : Cursor) : (stop s : Parse α) c = .error ⟨s, 0⟩ c := rfl

/-- A sequence goes on where its first part has come to. -/
theorem bind_of_ok {p : Parse α} {q : α → Parse β} {c c' : Cursor} {a : α} (h : p c = .ok a c') :
    (p >>= q) c = q a c' := by
  simp only [bind, EStateM.bind, h]

/-- A sequence is given up where its first part is. -/
theorem bind_of_error {p : Parse α} {q : α → Parse β} {c c' : Cursor} {f : Failure}
    (h : p c = .error f c') : (p >>= q) c = .error f c' := by
  simp only [bind, EStateM.bind, h]

/-! ## Tokens -/

/-- The token under the cursor. -/
def peek : Parse Token := do return (← get).current.item

/-- Looking at the token leaves the cursor where it is. -/
theorem peek_run (c : Cursor) : peek c = .ok c.current.item c := rfl

/-- Moves on to the next token.  If that one cannot be read, the cursor keeps its token, though
what could not be read is behind it no more. -/
def advance : Parse Unit := fun c =>
  match c.ahead.head with
  | .ok token => .ok () ⟨token, c.ahead.tail⟩
  | .error e => .error ⟨.lexical e, 0⟩ ⟨c.current, c.ahead.tail⟩

/-- The cursor moves on to the next token. -/
theorem advance_of_ok {c : Cursor} {token : Located Token} (h : c.ahead.head = .ok token) :
    advance c = .ok () ⟨token, c.ahead.tail⟩ := by
  simp only [advance, h]

/-- A token that cannot be read is passed, and the cursor keeps its own. -/
theorem advance_of_error {c : Cursor} {e : LexicalError} (h : c.ahead.head = .error e) :
    advance c = .error ⟨.lexical e, 0⟩ ⟨c.current, c.ahead.tail⟩ := by
  simp only [advance, h]

/-- Moves past the given token. -/
def expect (token : Token) (wanted : Expectation) : Parse Unit := do
  if (← peek) = token then advance else stop (.missing wanted)

/-- A token is passed if it is the one that is asked for. -/
theorem expect_run (token : Token) (wanted : Expectation) (c : Cursor) :
    expect token wanted c =
      if c.current.item = token then advance c else stop (.missing wanted) c := by
  rw [expect, bind_of_ok (peek_run c)]
  split <;> rfl

/-! ## Levels -/

/-- Counts a level for the parser in case it gives up inside. -/
def within (p : Parse α) : Parse α := fun c =>
  match p c with
  | .ok a c' => .ok a c'
  | .error f c' => .error { f with entered := f.entered + 1 } c'

/-- A parser that succeeds leaves its level. -/
theorem within_of_ok {p : Parse α} {c c' : Cursor} {a : α} (h : p c = .ok a c') :
    within p c = .ok a c' := by
  simp only [within, h]

/-- A parser that gives up stays in its level. -/
theorem within_of_error {p : Parse α} {c c' : Cursor} {f : Failure} (h : p c = .error f c') :
    within p c = .error { f with entered := f.entered + 1 } c' := by
  simp only [within, h]

/-- A parser that gives up within a level has entered it. -/
theorem entered_pos_of_within {p : Parse α} {c c' : Cursor} {f : Failure}
    (h : within p c = .error f c') : 0 < f.entered := by
  unfold within at h
  split at h
  · simp at h
  · simp only [EStateM.Result.error.injEq] at h
    rw [← h.1]
    exact Nat.succ_pos _

/-- Enters a level that there is no budget for. -/
def enterTooDeep : Parse α := within (stop .tooDeep)

/-- A level that there is no budget for counts as entered. -/
theorem enterTooDeep_run (c : Cursor) : (enterTooDeep : Parse α) c = .error ⟨.tooDeep, 1⟩ c := rfl

/-- Enters a level: the parser gets what is left of the budget. -/
def nest (p : Nat → Parse α) : Nat → Parse α
  | 0 => enterTooDeep
  | budget + 1 => within (p budget)

end Parse

end TemplateExpr
