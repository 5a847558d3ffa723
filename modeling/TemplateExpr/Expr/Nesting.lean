/-
# Nested expressions

A parser with a budget asks the parser for nested expressions for nothing beyond that budget.
So two parsers for nested expressions that agree up to a budget can stand for each other there,
and an expression is parsed like a disjunction in which the nested expressions are expressions
again.

Main statements:
* `disjunction_congr`: only the budgets up to the given one matter;
* `expression_succ`: the equation of expressions.
-/
import TemplateExpr.Expr.Parse

namespace TemplateExpr

namespace Parse

/-- The parsers are the same for all budgets up to `bound`. -/
def AgreeUpTo (bound : Nat) (p q : Nat → Parse Expr) : Prop := ∀ b ≤ bound, p b = q b

/-- The links exist for the same tokens and are the same for all budgets below `bound`. -/
def LinksAgreeBelow (bound : Nat) (l m : Link) : Prop :=
  ∀ token, (l token = none ∧ m token = none) ∨
    ∃ r s, l token = some r ∧ m token = some s ∧ ∀ left, ∀ b < bound, r left b = s left b

/-! ## Chains -/

/-- Links that agree below a budget make the same chains within it. -/
theorem links_congr {l m : Link} {bound : Nat} (h : LinksAgreeBelow bound l m) (left : Expr) :
    links l bound left = links m bound left := by
  induction bound generalizing left with
  | zero =>
    funext c
    rcases h c.current.item with ⟨hl, hm⟩ | ⟨r, s, hl, hm, -⟩
    · rw [links_of_none hl, links_of_none hm]
    · rw [links_zero hl, links_zero hm]
  | succ bound ih =>
    have hbelow : LinksAgreeBelow bound l m := fun token =>
      (h token).imp_right fun ⟨r, s, hl, hm, hrs⟩ =>
        ⟨r, s, hl, hm, fun left b hb => hrs left b (Nat.lt_succ_of_lt hb)⟩
    funext c
    rcases h c.current.item with ⟨hl, hm⟩ | ⟨r, s, hl, hm, hrs⟩
    · rw [links_of_none hl, links_of_none hm]
    · rw [links_succ hl, links_succ hm, hrs left bound (Nat.lt_succ_self bound),
        funext fun e => ih hbelow e]

/-- Chains agree where their first operands and their links do. -/
theorem chain_congr {l m : Link} {p q : Nat → Parse Expr} {bound : Nat}
    (hl : LinksAgreeBelow bound l m) (hp : AgreeUpTo bound p q) :
    AgreeUpTo bound (chain l p) (chain m q) := by
  intro b hb
  have hbelow : LinksAgreeBelow b l m := fun token =>
    (hl token).imp_right fun ⟨r, s, hr, hs, hrs⟩ =>
      ⟨r, s, hr, hs, fun left b' hb' => hrs left b' (Nat.lt_of_lt_of_le hb' hb)⟩
  rw [chain, chain, hp b hb, funext fun e => links_congr hbelow e]

/-- Operators agree where their operands do. -/
theorem operatorLink_congr (node? : Token → Option (Expr → Expr → Expr))
    {p q : Nat → Parse Expr} {bound : Nat} (h : AgreeUpTo bound p q) :
    LinksAgreeBelow bound (operatorLink node? p) (operatorLink node? q) := by
  intro token
  cases hn : node? token with
  | none => exact .inl (by simp [operatorLink, hn])
  | some node =>
    refine .inr ⟨_, _, by rw [operatorLink, hn]; rfl, by rw [operatorLink, hn]; rfl, ?_⟩
    intro left b hb
    simp only [h b (Nat.le_of_lt hb)]

/-- Flat chains agree where their operands do. -/
theorem flat_congr (op : Connective) {p q : Nat → Parse Expr} {bound : Nat}
    (h : AgreeUpTo bound p q) : AgreeUpTo bound (flat op p) (flat op q) := by
  intro b hb
  rw [flat, flat, h b hb]

/-! ## The operators -/

variable {p q : Nat → Parse Expr} {bound : Nat}

/-- Primary expressions agree where the nested ones do. -/
theorem primary_congr (h : AgreeUpTo bound p q) : AgreeUpTo bound (primary p) (primary q) := by
  intro b hb
  rw [primary, primary, h b hb]

/-- Attributes and indices agree where the nested expressions do. -/
theorem accessLink_congr (h : AgreeUpTo bound p q) :
    LinksAgreeBelow bound (accessLink p) (accessLink q) := by
  intro token
  cases token
  case dot => exact .inr ⟨_, _, rfl, rfl, fun _ _ _ => rfl⟩
  case openBracket => exact .inr ⟨_, _, rfl, rfl, fun _ b hb => by rw [h b (Nat.le_of_lt hb)]⟩
  all_goals exact .inl ⟨rfl, rfl⟩

/-- A filter does not depend on the budget. -/
theorem filterLink_congr (bound : Nat) : LinksAgreeBelow bound filterLink filterLink := by
  intro token
  cases hl : filterLink token with
  | none => exact .inl ⟨rfl, rfl⟩
  | some read => exact .inr ⟨read, read, rfl, rfl, fun _ _ _ => rfl⟩

/-- Expressions with filters agree where the nested ones do. -/
theorem filtered_congr (h : AgreeUpTo bound p q) : AgreeUpTo bound (filtered p) (filtered q) :=
  chain_congr (filterLink_congr bound) (chain_congr (accessLink_congr h) (primary_congr h))

/-- The chains of operators agree where the nested expressions do. -/
theorem containment_congr (h : AgreeUpTo bound p q) :
    AgreeUpTo bound (containment p) (containment q) := by
  have ho : AgreeUpTo bound (ordering p) (ordering q) :=
    chain_congr (operatorLink_congr _ (filtered_congr h)) (filtered_congr h)
  have he : AgreeUpTo bound (equality p) (equality q) :=
    chain_congr (operatorLink_congr _ ho) ho
  exact chain_congr (operatorLink_congr _ he) he

/-- Only the budgets up to the given one matter. -/
theorem disjunction_congr (h : AgreeUpTo bound p q) :
    AgreeUpTo bound (disjunction p) (disjunction q) :=
  flat_congr .or (flat_congr .and (containment_congr h))

/-! ## Expressions -/

/-- There are no more expressions inside each other than the budget. -/
theorem expressionUpTo_eq {count budget : Nat} (h : budget ≤ count) :
    expressionUpTo count budget = expression budget := by
  induction budget using Nat.strongRecOn generalizing count with
  | ind budget ih =>
    cases count with
    | zero =>
      obtain rfl : budget = 0 := Nat.le_zero.1 h
      rfl
    | succ count =>
      cases budget with
      | zero => rfl
      | succ budget =>
        have hbudget : budget ≤ count := Nat.le_of_succ_le_succ h
        have hagree : AgreeUpTo budget (expressionUpTo count) (expressionUpTo budget) := by
          intro b hb
          have hlt : b < budget + 1 := Nat.lt_succ_of_le hb
          rw [ih b hlt (Nat.le_trans hb hbudget), ih b hlt hb]
        rw [expression, expressionUpTo, expressionUpTo, nest, nest,
          disjunction_congr hagree budget (Nat.le_refl _)]

/-- An expression costs one level and is parsed like a disjunction over expressions. -/
theorem expression_succ (budget : Nat) :
    expression (budget + 1) = within (disjunction expression budget) := by
  have hagree : AgreeUpTo budget (expressionUpTo budget) expression :=
    fun _ hb => expressionUpTo_eq hb
  rw [expression, expressionUpTo, nest, disjunction_congr hagree budget (Nat.le_refl _)]

end Parse

end TemplateExpr
