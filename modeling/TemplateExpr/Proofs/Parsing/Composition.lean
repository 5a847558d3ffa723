/-
# What all parsers have in common

The parsers of expressions are put together from a few basic ones in a few ways.  A property that
the basic ones have and that each of these ways keeps is a property of the parser of expressions.
It can speak of the cursor at which the parser begins, and of the budget: within a level there is
one less than outside.

Main statements:
* `Composes.links`, `Composes.operands`: chains, link by link and operand by operand;
* `Composes.disjunction`: all tiers over a parser for nested expressions with the property;
* `Composes.expression`: expressions.
-/
import TemplateExpr.Expr.Nesting

namespace TemplateExpr

namespace Parse

/-- The property of parsers with a budget at a cursor belongs to the basic ones and is kept wherever
parsers are put together. -/
structure Composes (P : Nat → (α : Type) → Parse α → Cursor → Prop) : Prop where
  pure : ∀ (b : Nat) {α : Type} (a : α) (c : Cursor), P b α (pure a) c
  missing : ∀ (b : Nat) {α : Type} (wanted : Expectation) (c : Cursor),
    P b α (stop (.missing wanted)) c
  /-- Parsers never move on at the end of the source. -/
  advance : ∀ (b : Nat) {c : Cursor}, c.current.item ≠ .endOfSource → P b Unit advance c
  peek : ∀ {b : Nat} {α : Type} {q : Token → Parse α} {c : Cursor}, P b α (q c.current.item) c →
    P b α (peek >>= q) c
  /-- A parser may ask how many answers are ahead. -/
  ahead : ∀ {b : Nat} {α : Type} {q : Cursor → Parse α} {c : Cursor},
    (∀ d d' : Cursor, d.ahead.ahead.length = d'.ahead.ahead.length → q d = q d') →
    P b α (q c) c → P b α (get >>= q) c
  bind : ∀ {b : Nat} {α β : Type} {p : Parse α} {q : α → Parse β} {c : Cursor}, P b α p c →
    (∀ {a c₁}, p c = .ok a c₁ → P b β (q a) c₁) → P b β (p >>= q) c
  enterTooDeep : ∀ {α : Type} (c : Cursor), P 0 α enterTooDeep c
  within : ∀ {b : Nat} {α : Type} {p : Parse α} {c : Cursor}, P b α p c →
    P (b + 1) α (within p) c

namespace Composes

variable {P : Nat → (α : Type) → Parse α → Cursor → Prop} (hP : Composes P)
include hP

/-- To ask for a token has the property. -/
theorem expect (b : Nat) {token : Token} (hne : token ≠ .endOfSource) (wanted : Expectation)
    (c : Cursor) : P b Unit (expect token wanted) c := by
  refine hP.peek ?_
  split
  · rename_i hitem
    exact hP.advance b (by rwa [hitem])
  · exact hP.missing b wanted c

/-! ## Chains -/

omit hP in
/-- The property belongs to what the link reads from its own token on. -/
def Linked (P : Nat → (α : Type) → Parse α → Cursor → Prop) (l : Link) : Prop :=
  ∀ ⦃t read⦄, l t = some read → ∀ (left : Expr) (b : Nat) {c : Cursor}, c.current.item = t →
    P b Expr (read left b) c

variable {l : Link} {first operand nested : Nat → Parse Expr}

/-- Each link is one level deeper than the one before. -/
theorem links (hl : Linked P l) (b : Nat) (left : Expr) (c : Cursor) :
    P b Expr (links l b left) c := by
  induction b generalizing left c with
  | zero =>
    refine hP.peek ?_
    cases l c.current.item with
    | none => exact hP.pure 0 left c
    | some read => exact hP.enterTooDeep c
  | succ b ih =>
    refine hP.peek ?_
    cases hread : l c.current.item with
    | none => exact hP.pure (b + 1) left c
    | some read => exact hP.within (hP.bind (hl hread left b rfl) fun _ => ih _ _)

/-- A chain has the property if its first operand and its links do. -/
theorem chain (hl : Linked P l) (h : ∀ b c, P b Expr (first b) c) (b : Nat) (c : Cursor) :
    P b Expr (chain l first b) c :=
  hP.bind (h b c) fun _ => hP.links hl b _ _

/-! ## Connectives -/

/-- The operands of a connective have the property if each of them does. -/
theorem operands {op : Connective} {b : Nat} {p : Parse Expr} (h : ∀ c, P b Expr p c) (bound : Nat)
    (c : Cursor) : P b (List Expr) (operands op p bound) c := by
  induction bound generalizing c with
  | zero => exact hP.pure b [] c
  | succ bound ih =>
    refine hP.peek ?_
    split
    · rename_i hop
      refine hP.bind (hP.advance b (by simp [hop])) fun _ => hP.bind (h _) fun _ => ?_
      exact hP.bind (ih _) fun _ => hP.pure b _ _
    · exact hP.pure b [] c

/-- A flat chain has the property if its operands do. -/
theorem flat {op : Connective} (h : ∀ b c, P b Expr (operand b) c) (b : Nat) (c : Cursor) :
    P b Expr (flat op operand b) c := by
  refine hP.bind (h b c) fun {first c₁} _ => hP.peek ?_
  split
  · refine hP.ahead (fun d d' hd => by rw [hd]) ?_
    exact hP.bind (hP.operands (h b) _ c₁) fun _ => hP.pure b _ _
  · exact hP.pure b first c₁

/-! ## The operators -/

/-- Primary expressions have the property if the nested ones do. -/
theorem primary (h : ∀ b c, P b Expr (nested b) c) (b : Nat) (c : Cursor) :
    P b Expr (primary nested b) c := by
  refine hP.peek ?_
  cases hitem : c.current.item
  case openParen =>
    refine hP.bind (hP.advance b (by simp [hitem])) fun _ => hP.bind (h b _) fun _ => ?_
    exact hP.bind (hP.expect b (by simp) _ _) fun _ => hP.pure b _ _
  case integer | float | string | boolean | nil | identifier =>
    exact hP.bind (hP.advance b (by simp [hitem])) fun _ => hP.pure b _ _
  all_goals exact hP.missing b .expression c

/-- Attributes and indices have the property if the nested expressions do. -/
theorem linked_access (h : ∀ b c, P b Expr (nested b) c) : Linked P (accessLink nested) := by
  intro t read hread left b c hitem
  cases t
  case dot =>
    obtain rfl := Option.some.inj hread
    refine hP.bind (hP.advance b (by simp [hitem])) fun {_ c₁} _ => hP.peek ?_
    cases hname : c₁.current.item.word? with
    | none => exact hP.missing b .attributeName c₁
    | some name =>
      have hne : c₁.current.item ≠ .endOfSource := by
        intro hend
        simp [hend, Token.word?] at hname
      exact hP.bind (hP.advance b hne) fun _ => hP.pure b _ _
  case openBracket =>
    obtain rfl := Option.some.inj hread
    refine hP.bind (hP.advance b (by simp [hitem])) fun _ => hP.bind (h b _) fun _ => ?_
    exact hP.bind (hP.expect b (by simp) _ _) fun _ => hP.pure b _ _
  all_goals exact absurd hread (by simp [accessLink])

/-- Filters have the property. -/
theorem linked_filter : Linked P filterLink := by
  intro t read hread left b c hitem
  cases t
  case pipe =>
    obtain rfl := Option.some.inj hread
    refine hP.bind (hP.advance b (by simp [hitem])) fun {_ c₁} _ => hP.peek ?_
    cases hname : c₁.current.item
    case identifier =>
      exact hP.bind (hP.advance b (by simp [hname])) fun _ => hP.pure b _ _
    all_goals exact hP.missing b .filterName c₁
  all_goals exact absurd hread (by simp [filterLink])

/-- Operators have the property if their operands do. -/
theorem linked_operator {node? : Token → Option (Expr → Expr → Expr)}
    (hend : node? .endOfSource = none) (h : ∀ b c, P b Expr (operand b) c) :
    Linked P (operatorLink node? operand) := by
  intro t read hread left b c hitem
  obtain ⟨node, hnode, rfl⟩ := Option.map_eq_some_iff.1 hread
  have hne : c.current.item ≠ .endOfSource := by
    intro he
    rw [← hitem, he, hend] at hnode
    simp at hnode
  exact hP.bind (hP.advance b hne) fun _ => hP.bind (h b _) fun _ => hP.pure b _ _

/-- All tiers over a parser for nested expressions. -/
theorem disjunction (h : ∀ b c, P b Expr (nested b) c) :
    ∀ b c, P b Expr (disjunction nested b) c := by
  have hfiltered : ∀ b c, P b Expr (filtered nested b) c :=
    hP.chain hP.linked_filter (hP.chain (hP.linked_access h) (hP.primary h))
  have hordering : ∀ b c, P b Expr (ordering nested b) c :=
    hP.chain (hP.linked_operator rfl hfiltered) hfiltered
  have hequality : ∀ b c, P b Expr (equality nested b) c :=
    hP.chain (hP.linked_operator rfl hordering) hordering
  have hcontainment : ∀ b c, P b Expr (containment nested b) c :=
    hP.chain (hP.linked_operator rfl hequality) hequality
  exact hP.flat (hP.flat hcontainment)

/-! ## Expressions -/

/-- What each way of putting parsers together keeps is a property of the parser of expressions. -/
theorem expression (b : Nat) (c : Cursor) : P b Expr (expression b) c := by
  induction b using Nat.strongRecOn generalizing c with
  | ind b ih =>
    cases b with
    | zero => exact hP.enterTooDeep c
    | succ b =>
      -- no nested expression is asked for beyond the budget, so any parser can stand for it there
      let nested : Nat → Parse Expr := fun n =>
        if n ≤ b then Parse.expression n else stop (.missing .expression)
      have hagree : AgreeUpTo b Parse.expression nested := fun n hn => (if_pos hn).symm
      rw [expression_succ, disjunction_congr hagree b (Nat.le_refl b)]
      refine hP.within (hP.disjunction (fun n c => ?_) b c)
      show P n Expr (if n ≤ b then Parse.expression n else stop (.missing .expression)) c
      split
      · exact ih n (by omega) c
      · exact hP.missing n .expression c

end Composes

end Parse

end TemplateExpr
