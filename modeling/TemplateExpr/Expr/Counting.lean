/-
# Counters and budgets

To count the levels that are entered up to a limit, or to hand on how many levels are left, comes to
the same.  A step of a parser finds what the parser with the budget finds that is left to it, and
stands where that one stands.  Where it fails, its counter tells how many levels the other one had
entered: every level is left again on success only.

Main statements:
* `counts_bind`: one step after the other;
* `counts_chain`: a chain enters a level for each link and leaves them together;
* `counts_disjunction`: all operators over a step for nested expressions;
* `expression_run`: expressions.
-/
import TemplateExpr.Expr.Descent
import TemplateExpr.Expr.Nesting

namespace TemplateExpr

namespace Descent

variable {α β : Type}

/-- What a parser with a budget comes to, as the result of a step. -/
def counted (s : Parser) :
    EStateM.Result Failure Cursor α → EStateM.Result SyntaxError Parser α
  | .ok a c => .ok a { s with cursor := c }
  | .error f c => .error (.ofStop s.limit c.current f.stop)
      { s with cursor := c, depth := s.depth + f.entered }

/-- Where no more than `bound` levels are left, the step does what the parser does with a budget of
the levels that are left. -/
def Counts (bound : Nat) (x : Descent α) (p : Nat → Parse α) : Prop :=
  ∀ s : Parser, s.limit - s.depth ≤ bound → x s = counted s (p (s.limit - s.depth) s.cursor)

variable {bound : Nat}

/-- A level that is counted here is one more that the other parser has entered. -/
theorem counted_deeper (s : Parser) (f : Failure) (c : Cursor) :
    (counted { s with depth := s.depth + 1 } (.error f c) : EStateM.Result _ _ α) =
      counted s (.error { f with entered := f.entered + 1 } c) := by
  show EStateM.Result.error _ _ = EStateM.Result.error _ _
  rw [Nat.add_right_comm, Nat.add_assoc]

/-- One level deeper there is one level less left. -/
theorem counts_deeper {x : Descent α} {p : Nat → Parse α} {s : Parser} {b : Nat}
    (h : Counts bound x p) (hb : s.limit - s.depth = b + 1) (hbound : b ≤ bound) :
    x { s with depth := s.depth + 1 } =
      counted { s with depth := s.depth + 1 } (p b s.cursor) := by
  have hleft : s.limit - (s.depth + 1) = b := by omega
  have hrun := h { s with depth := s.depth + 1 } (Nat.le_trans (Nat.le_of_eq hleft) hbound)
  rw [hrun]
  exact congrArg (fun budget => counted _ (p budget s.cursor)) hleft

/-! ## Tokens -/

/-- An answer without reading enters no level. -/
theorem counts_pure (a : α) : Counts bound (pure a) fun _ => pure a := fun _ _ => rfl

/-- The second of two steps finds the counter as the first one has found it. -/
theorem counts_bind {x : Descent α} {f : α → Descent β} {p : Nat → Parse α}
    {q : Nat → α → Parse β} (hx : Counts bound x p)
    (hf : ∀ a, Counts bound (f a) fun b => q b a) :
    Counts bound (x >>= f) fun b => p b >>= q b := by
  intro s hs
  have hrun := hx s hs
  show _ = counted s ((p (s.limit - s.depth) >>= q (s.limit - s.depth)) s.cursor)
  cases hp : p (s.limit - s.depth) s.cursor with
  | ok a c =>
    rw [hp] at hrun
    rw [Parse.bind_of_ok hp, bind_of_ok hrun]
    exact hf a _ hs
  | error e c =>
    rw [hp] at hrun
    rw [Parse.bind_of_error hp, bind_of_error hrun]
    rfl

/-- Looking at a token enters no level. -/
theorem counts_peek : Counts bound peek fun _ => Parse.peek := fun _ _ => rfl

/-- Moving on enters no level. -/
theorem counts_advance : Counts bound advance fun _ => Parse.advance := by
  intro s _
  show advance s = counted s (Parse.advance s.cursor)
  cases hhead : s.cursor.ahead.head with
  | ok token =>
    rw [Parse.advance_of_ok hhead, advance, hhead]
    rfl
  | error e =>
    rw [Parse.advance_of_error hhead, advance, hhead]
    rfl

/-- Giving up enters no level. -/
theorem counts_fail (wanted : Expectation) :
    Counts bound (fail wanted : Descent α) fun _ => Parse.stop (.missing wanted) := fun _ _ => rfl

/-- Asking for a token enters no level. -/
theorem counts_expect (token : Token) (wanted : Expectation) :
    Counts bound (expect token wanted) fun _ => Parse.expect token wanted := by
  refine counts_bind counts_peek fun t => ?_
  split
  · exact counts_advance
  · exact counts_fail wanted

/-! ## Chains -/

/-- The links exist for the same tokens, and the one does what the other does. -/
def CountsLink (bound : Nat) (l : Link) (m : Parse.Link) : Prop :=
  ∀ token, (l token = none ∧ m token = none) ∨
    ∃ r s, l token = some r ∧ m token = some s ∧ ∀ left, Counts bound (r left) (s left)

/-- The results are the same, but on success the counter may be higher. -/
def SameUpToDepth (s : Parser) (r : EStateM.Result SyntaxError Parser α) :
    EStateM.Result Failure Cursor α → Prop
  | .ok a c => ∃ depth, r = .ok a { s with cursor := c, depth := depth }
  | .error f c => r = counted s (.error f c)

/-- At a token with no link the chain ends. -/
theorem links_of_none {l : Link} {s : Parser} (h : l s.cursor.current.item = none) (rounds : Nat)
    (left : Expr) : links l (rounds + 1) left s = .ok left s := by
  rw [links, bind_of_ok (peek_run s), h]
  rfl

/-- A link enters a level, and the chain goes on behind it. -/
theorem links_of_some {l : Link} {s : Parser} {read : Expr → Descent Expr}
    (h : l s.cursor.current.item = some read) (rounds : Nat) (left : Expr) :
    links l (rounds + 1) left s = (descend >>= fun _ => read left >>= links l rounds) s := by
  rw [links, bind_of_ok (peek_run s), h]

/-- The induction is on the levels that are left.  With none, the next link is the one that fails
when it enters its level. -/
theorem sameUpToDepth_links {l : Link} {m : Parse.Link} (h : CountsLink bound l m) {s : Parser}
    {b : Nat} (hb : s.limit - s.depth = b) (hbound : b ≤ bound) (left : Expr) :
    SameUpToDepth s (links l (b + 1) left s) (Parse.links m b left s.cursor) := by
  induction b generalizing s left with
  | zero =>
    rcases h s.cursor.current.item with ⟨hl, hm⟩ | ⟨r, q, hl, hm, -⟩
    · rw [links_of_none hl, Parse.links_of_none hm]
      exact ⟨s.depth, rfl⟩
    · rw [links_of_some hl, Parse.links_zero hm,
        bind_of_error (descend_of_le (Nat.le_of_sub_eq_zero hb))]
      rfl
  | succ b ih =>
    rcases h s.cursor.current.item with ⟨hl, hm⟩ | ⟨r, q, hl, hm, hrq⟩
    · rw [links_of_none hl, Parse.links_of_none hm]
      exact ⟨s.depth, rfl⟩
    · have hrun := counts_deeper (hrq left) hb (Nat.le_of_succ_le hbound)
      rw [links_of_some hl, Parse.links_succ hm, bind_of_ok (descend_of_lt (by omega))]
      cases hq : q left b s.cursor with
      | error f c =>
        rw [hq] at hrun
        rw [Parse.within_of_error (Parse.bind_of_error hq), bind_of_error hrun]
        exact counted_deeper s f c
      | ok e c =>
        rw [hq] at hrun
        rw [Parse.within, Parse.bind_of_ok hq, bind_of_ok hrun]
        have hrest := ih (s := { s with cursor := c, depth := s.depth + 1 })
          (by dsimp only; omega) (by omega) e
        cases hc : Parse.links m b e c with
        | ok e' c' =>
          rw [hc] at hrest
          exact hrest
        | error f c' =>
          rw [hc] at hrest
          exact hrest.trans (counted_deeper s f c')

/-- A chain enters a level for each of its links, and leaves all of them together. -/
theorem counts_chain {l : Link} {m : Parse.Link} {first : Descent Expr}
    {operand : Nat → Parse Expr} (hl : CountsLink bound l m) (h : Counts bound first operand) :
    Counts bound (chain l first) (Parse.chain m operand) := by
  intro s hs
  have hfirst := h s hs
  cases hp : operand (s.limit - s.depth) s.cursor with
  | error f c =>
    rw [hp] at hfirst
    rw [Parse.chain, Parse.bind_of_error hp]
    exact restoring_of_error (bind_of_error hfirst)
  | ok e c =>
    rw [hp] at hfirst
    rw [Parse.chain, Parse.bind_of_ok hp]
    have hbody : (do
        let left ← first
        let p ← get
        links l (p.limit - p.depth + 1) left : Descent Expr) s =
        links l (s.limit - s.depth + 1) e { s with cursor := c } := bind_of_ok hfirst
    have hlinks := sameUpToDepth_links hl (s := { s with cursor := c }) rfl hs e
    cases hrun : Parse.links m (s.limit - s.depth) e c with
    | ok e' c' =>
      rw [hrun] at hlinks
      obtain ⟨depth, hdepth⟩ := hlinks
      exact restoring_of_ok (hbody.trans hdepth)
    | error f c' =>
      rw [hrun] at hlinks
      exact restoring_of_error (hbody.trans hlinks)

/-- An operator counts as its operand does. -/
theorem countsLink_operator (node? : Token → Option (Expr → Expr → Expr)) {x : Descent Expr}
    {p : Nat → Parse Expr} (h : Counts bound x p) :
    CountsLink bound (operatorLink node? x) (Parse.operatorLink node? p) := by
  intro token
  unfold operatorLink Parse.operatorLink
  cases node? token with
  | none => exact .inl ⟨rfl, rfl⟩
  | some node =>
    refine .inr ⟨_, _, rfl, rfl, fun left => ?_⟩
    exact counts_bind counts_advance fun _ => counts_bind h fun _ => counts_pure _

/-! ## Connectives -/

/-- The operands of a connective count one after the other. -/
theorem counts_operands (op : Connective) {x : Descent Expr} {p : Nat → Parse Expr}
    (h : Counts bound x p) (rounds : Nat) :
    Counts bound (operands op x rounds) fun b => Parse.operands op (p b) rounds := by
  induction rounds with
  | zero => exact counts_pure []
  | succ rounds ih =>
    refine counts_bind counts_peek fun token => ?_
    split
    · refine counts_bind counts_advance fun _ => counts_bind h fun _ => ?_
      exact counts_bind ih fun _ => counts_pure _
    · exact counts_pure []

/-- Operands of a connective enter no level. -/
theorem counts_flat (op : Connective) {x : Descent Expr} {p : Nat → Parse Expr}
    (h : Counts bound x p) : Counts bound (flat op x) (Parse.flat op p) := by
  refine counts_bind h fun first => counts_bind counts_peek fun token => ?_
  split
  · intro s hs
    exact counts_bind (counts_operands op h (s.cursor.ahead.ahead.length + 1))
      (fun es => counts_pure (Expr.logical op (first :: es))) s hs
  · exact counts_pure first

/-! ## The operators -/

section

variable {nested : Descent Expr} {p : Nat → Parse Expr}

/-- A primary expression counts as the expression inside a group does. -/
theorem counts_primary (h : Counts bound nested p) :
    Counts bound (primary nested) (Parse.primary p) := by
  refine counts_bind counts_peek fun token => ?_
  cases token
  case openParen =>
    refine counts_bind counts_advance fun _ => counts_bind h fun _ => ?_
    exact counts_bind (counts_expect _ _) fun _ => counts_pure _
  case integer | float | string | boolean | nil | identifier =>
    exact counts_bind counts_advance fun _ => counts_pure _
  all_goals exact counts_fail .expression

/-- An attribute or an index counts as the expression inside an index does. -/
theorem countsLink_access (h : Counts bound nested p) :
    CountsLink bound (accessLink nested) (Parse.accessLink p) := by
  intro token
  cases token
  case dot =>
    refine .inr ⟨_, _, rfl, rfl, fun object => ?_⟩
    refine counts_bind counts_advance fun _ => counts_bind counts_peek fun token => ?_
    generalize token.word? = word
    cases word with
    | some name => exact counts_bind counts_advance fun _ => counts_pure _
    | none => exact counts_fail .attributeName
  case openBracket =>
    refine .inr ⟨_, _, rfl, rfl, fun object => ?_⟩
    refine counts_bind counts_advance fun _ => counts_bind h fun _ => ?_
    exact counts_bind (counts_expect _ _) fun _ => counts_pure _
  all_goals exact .inl ⟨rfl, rfl⟩

/-- A filter counts nothing but its link. -/
theorem countsLink_filter : CountsLink bound filterLink Parse.filterLink := by
  intro token
  cases token
  case pipe =>
    refine .inr ⟨_, _, rfl, rfl, fun input => ?_⟩
    refine counts_bind counts_advance fun _ => counts_bind counts_peek fun token => ?_
    cases token
    case identifier => exact counts_bind counts_advance fun _ => counts_pure _
    all_goals exact counts_fail .filterName
  all_goals exact .inl ⟨rfl, rfl⟩

/-- All operators over a step for nested expressions. -/
theorem counts_disjunction (h : Counts bound nested p) :
    Counts bound (disjunction nested) (Parse.disjunction p) := by
  have hfiltered : Counts bound (filtered nested) (Parse.filtered p) :=
    counts_chain countsLink_filter (counts_chain (countsLink_access h) (counts_primary h))
  have hordering : Counts bound (ordering nested) (Parse.ordering p) :=
    counts_chain (countsLink_operator _ hfiltered) hfiltered
  have hequality : Counts bound (equality nested) (Parse.equality p) :=
    counts_chain (countsLink_operator _ hordering) hordering
  have hcontainment : Counts bound (containment nested) (Parse.containment p) :=
    counts_chain (countsLink_operator _ hequality) hequality
  exact counts_flat .or (counts_flat .and hcontainment)

end

/-! ## Expressions -/

/-- One level deeper, and back again on success. -/
theorem counts_nest {x : Descent Expr} {p : Nat → Parse Expr} (h : Counts bound x p) :
    Counts (bound + 1) (restoring do descend; x) (Parse.nest p) := by
  intro s hs
  cases hb : s.limit - s.depth with
  | zero => exact restoring_of_error (bind_of_error (descend_of_le (Nat.le_of_sub_eq_zero hb)))
  | succ b =>
    have hrun := counts_deeper h hb (by omega)
    have hbody : (do descend; x : Descent Expr) s = x { s with depth := s.depth + 1 } :=
      bind_of_ok (descend_of_lt (by omega))
    cases hp : p b s.cursor with
    | ok e c =>
      rw [hp] at hrun
      rw [Parse.nest, Parse.within_of_ok hp]
      exact restoring_of_ok (hbody.trans hrun)
    | error f c =>
      rw [hp] at hrun
      rw [Parse.nest, Parse.within_of_error hp]
      exact (restoring_of_error (hbody.trans hrun)).trans (counted_deeper s f c)

/-- However many expressions may stand inside each other, their levels are counted. -/
theorem counts_expressionUpTo (count : Nat) :
    Counts count (expressionUpTo count) (Parse.expressionUpTo count) := by
  induction count with
  | zero =>
    intro s hs
    exact restoring_of_error (bind_of_error (descend_of_le (by omega)))
  | succ count ih => exact counts_nest (counts_disjunction ih)

/-- An expression is what is found with a budget of the levels that are left. -/
theorem expression_run (s : Parser) :
    expression s = counted s (Parse.expression (s.limit - s.depth) s.cursor) :=
  counts_expressionUpTo (s.limit - s.depth) s (Nat.le_refl _)

end Descent

end TemplateExpr
