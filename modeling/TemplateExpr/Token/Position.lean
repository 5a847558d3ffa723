/-
# Positions

Where a character stands in a source: how many characters are before it, and its line and column,
counted from one.  Only a line feed starts a line.

Main statements:
* `after_append`: going past a text in two steps leads to the same place;
* `offset_after`: the offset grows by the number of characters.
-/
namespace TemplateExpr

/-- A place in a source. -/
structure Position where
  /-- The number of characters before the place. -/
  offset : Nat
  /-- The number of the line, from one. -/
  line : Nat
  /-- The number of the place in its line, from one. -/
  column : Nat
deriving DecidableEq, Inhabited

namespace Position

/-- The place of the first character. -/
def start : Position := ⟨0, 1, 1⟩

/-- The place after the character that stands at `p`. -/
def next (p : Position) (c : Char) : Position :=
  if c = '\n' then ⟨p.offset + 1, p.line + 1, 1⟩ else ⟨p.offset + 1, p.line, p.column + 1⟩

/-- The place after the characters that begin at `p`. -/
def after (p : Position) (cs : List Char) : Position := cs.foldl next p

@[simp] theorem after_nil (p : Position) : p.after [] = p := rfl

theorem after_cons (p : Position) (c : Char) (cs : List Char) :
    p.after (c :: cs) = (p.next c).after cs := rfl

theorem after_append (p : Position) (cs ds : List Char) :
    p.after (cs ++ ds) = (p.after cs).after ds := List.foldl_append

theorem offset_next (p : Position) (c : Char) : (p.next c).offset = p.offset + 1 := by
  unfold next
  split <;> rfl

theorem offset_after (p : Position) (cs : List Char) :
    (p.after cs).offset = p.offset + cs.length := by
  induction cs generalizing p with
  | nil => rfl
  | cons c cs ih => rw [after_cons, ih, offset_next, List.length_cons]; omega

/-- The place as messages give it. -/
def text (p : Position) : String := "line " ++ toString p.line ++ ", column " ++ toString p.column

end Position

end TemplateExpr
