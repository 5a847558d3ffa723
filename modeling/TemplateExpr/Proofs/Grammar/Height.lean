/-
# The height of an expression

How many nodes are on the longest way down, when the nodes of connectives count as many levels as
one likes: one for the depth of a tree, none for its nesting.  The cost of an expression does not
bound its height by itself, since the left part of a chain is paid for from the same budget as the
links: every tier between primary expressions and conjunctions can pile its links on those of the
tiers before.

Main statements:
* `height_one`: the depth is a height;
* `Derives.height_le`: the height that an expression of a tier can have for its cost;
* `Derives.height_bound`: the height of an expression is at most quadratic in its cost.
-/
import Mathlib.Tactic.Ring
import TemplateExpr.Proofs.Grammar.Cost

namespace TemplateExpr

namespace Expr

/-! ## Height -/

mutual

/-- The number of nodes on the longest way down, where a node of a connective counts `flat`. -/
def height (flat : Nat) : Expr → Nat
  | .literal _ => 1
  | .var _ => 1
  | .field object _ => 1 + height flat object
  | .index object place => 1 + max (height flat object) (height flat place)
  | .group inner => 1 + height flat inner
  | .compare _ left right => 1 + max (height flat left) (height flat right)
  | .logical _ operands => flat + maxHeight flat operands
  | .contains left right => 1 + max (height flat left) (height flat right)
  | .filter input _ args => 1 + max (height flat input) (maxHeight flat args)

/-- The height of the highest of some expressions, or zero if there are none. -/
def maxHeight (flat : Nat) : List Expr → Nat
  | [] => 0
  | e :: es => max (height flat e) (maxHeight flat es)

end

/-- The number of nodes on the longest way down, where nodes of connectives do not count. -/
def nesting (e : Expr) : Nat := e.height 0

theorem maxHeight_le_iff {flat n : Nat} {es : List Expr} :
    maxHeight flat es ≤ n ↔ ∀ e ∈ es, e.height flat ≤ n := by
  induction es with
  | nil => simp [maxHeight]
  | cons e es ih => rw [maxHeight, Nat.max_le, ih, List.forall_mem_cons]

/-- With one level for each node the height is the depth. -/
theorem height_one (e : Expr) : e.height 1 = e.depth := by
  have hmax : ∀ es : List Expr, (∀ e ∈ es, e.height 1 = e.depth) →
      maxHeight 1 es = maxDepth es := by
    intro es
    induction es with
    | nil => intro _; rfl
    | cons e es ih =>
      intro h
      rw [maxHeight, maxDepth, h e (by simp), ih fun e' he' => h e' (by simp [he'])]
  induction e using Expr.induct with
  | literal v => rfl
  | var n => rfl
  | field object name ih => rw [height, depth, ih]
  | index object place ih ihp => rw [height, depth, ih, ihp]
  | group inner ih => rw [height, depth, ih]
  | compare op left right ihl ihr => rw [height, depth, ihl, ihr]
  | logical op operands ih => rw [height, depth, hmax operands ih]
  | contains left right ihl ihr => rw [height, depth, ihl, ihr]
  | filter input name args ih iha => rw [height, depth, ih, hmax args iha]

/-- Every link is paid for. -/
theorem links_le_cost (K : Tier) (e : Expr) : e.links K ≤ e.cost := by
  cases e <;> simp only [links, cost] <;> (try split) <;> subst_vars <;> omega

/-- Only the tiers between primary expressions and conjunctions have links. -/
theorem links_eq_zero_of_rank {K : Tier} (h : K.rank = 0 ∨ 5 < K.rank) (e : Expr) :
    e.links K = 0 := by
  have hop : ∀ op : Comparison, K ≠ op.tier := by
    rintro op rfl
    revert h
    cases op <;> decide
  have hne : K ≠ .access ∧ K ≠ .filtered ∧ K ≠ .containment := by
    revert h
    cases K <;> decide
  cases e <;> simp only [links, hop, hne, if_false]

end Expr

/-! ## Ceilings -/

/-- The greatest height of a primary expression at no more than the given cost. -/
def peak (flat : Nat) : Nat → Nat
  | 0 => 1
  | b + 1 => 1 + (2 * flat + 5 * b + peak flat b)

theorem peak_mono (flat : Nat) {b b' : Nat} (h : b ≤ b') : peak flat b ≤ peak flat b' := by
  induction h with
  | refl => exact Nat.le_refl _
  | step _ ih =>
    rw [peak]
    omega

/-- The greatest height of an expression of the tier at no more than the given cost, without the
links of its own chain. -/
def Tier.ceiling (flat : Nat) (T : Tier) (b : Nat) : Nat :=
  match T with
  | .primary => peak flat b
  | .access => peak flat b
  | .filtered => b + peak flat b
  | .ordering => 2 * b + peak flat b
  | .equality => 3 * b + peak flat b
  | .containment => 4 * b + peak flat b
  | .conjunction => flat + 5 * b + peak flat b
  | .disjunction => 2 * flat + 5 * b + peak flat b

/-- The ceiling of expressions, twice and without fractions. -/
theorem ceiling_disjunction (flat b : Nat) :
    2 * Tier.disjunction.ceiling flat b + 3 * (b + 1) = (b + 1) * (5 * (b + 1) + 4 * flat) := by
  rw [Tier.ceiling]
  induction b with
  | zero => rw [peak]; ring
  | succ b ih =>
    rw [peak]
    calc 2 * (2 * flat + 5 * (b + 1) + (1 + (2 * flat + 5 * b + peak flat b))) + 3 * (b + 1 + 1)
        = (2 * (2 * flat + 5 * b + peak flat b) + 3 * (b + 1)) + (4 * flat + 10 * b + 15) := by ring
      _ = (b + 1) * (5 * (b + 1) + 4 * flat) + (4 * flat + 10 * b + 15) := by rw [ih]
      _ = (b + 1 + 1) * (5 * (b + 1 + 1) + 4 * flat) := by ring

/-! ## Nodes -/

section

variable {K T : Tier} {flat b n : Nat} {e l r : Expr} {es : List Expr}

/-- All links of an expression are paid for, so it is no higher than the budget above the ceiling
of its tier. -/
theorem height_le_add (h : e.height flat ≤ e.links T + T.ceiling flat b) (hcost : e.cost ≤ b) :
    e.height flat ≤ b + T.ceiling flat b := by
  have hlinks := e.links_le_cost T
  omega

/-- A link with a right operand of the tier before is one level above what is on its left: the
budget that the links on the left have taken is missing on the right. -/
theorem height_operator (hceiling : K.ceiling flat b = b + T.ceiling flat b)
    (hl : l.height flat ≤ l.links K + K.ceiling flat b)
    (hr : r.height flat ≤ r.links T + T.ceiling flat b) (hcost : l.links K + 1 + r.cost ≤ b) :
    1 + max (l.height flat) (r.height flat) ≤ l.links K + 1 + K.ceiling flat b := by
  have hlinks := r.links_le_cost T
  omega

theorem maxHeight_le_add (h : ∀ e ∈ es, e.height flat ≤ e.links T + T.ceiling flat b)
    (hlinks : ∀ e ∈ es, e.links T ≤ n) : Expr.maxHeight flat es ≤ n + T.ceiling flat b := by
  rw [Expr.maxHeight_le_iff]
  intro e he
  exact Nat.le_trans (h e he) (Nat.add_le_add_right (hlinks e he) _)

end

namespace Derives

variable {T : Tier} {ts : List Token} {e : Expr}

/-- An expression of the tier has the links of its own chain above the ceiling, and no more. -/
theorem height_le (h : Derives T ts e) (flat : Nat) {b : Nat} (hcost : e.cost ≤ b) :
    e.height flat ≤ e.links T + T.ceiling flat b := by
  induction h generalizing b with
  | integer | float | string | boolean | nil | var =>
    have hpeak := peak_mono flat (Nat.zero_le b)
    rw [peak] at hpeak
    simp only [Expr.height, Tier.ceiling]
    omega
  | @group _ e _ ih =>
    rw [Expr.cost] at hcost
    obtain ⟨n, rfl⟩ : ∃ n, b = n + 1 := ⟨b - 1, by omega⟩
    have hinner := ih (b := n) (by omega)
    rw [Expr.links_eq_zero_of_rank (.inr (by decide))] at hinner
    simp only [Expr.height, Tier.ceiling, peak] at hinner ⊢
    omega
  | @ofPrimary _ e _ ih =>
    have hle := ih hcost
    rw [Expr.links_eq_zero_of_rank (.inl rfl)] at hle
    simp only [Tier.ceiling] at hle ⊢
    omega
  | field _ _ ih =>
    rw [Expr.cost] at hcost
    have hle := ih (b := b) (by omega)
    rw [Expr.height, Expr.links, if_pos rfl]
    omega
  | @index _ _ e place _ _ ih ihp =>
    rw [Expr.cost] at hcost
    have hle := ih (b := b) (by omega)
    -- the place has the budget that is left behind the links and its own level
    obtain ⟨n, hn⟩ : ∃ n, b = e.links .access + 1 + (1 + n) :=
      ⟨b - (e.links .access + 2), by omega⟩
    have hplace := ihp (b := n) (by omega)
    have hpeak := peak_mono flat (show n + 1 ≤ b by omega)
    rw [Expr.links_eq_zero_of_rank (.inr (by decide))] at hplace
    rw [Expr.height, Expr.links, if_pos rfl]
    simp only [Tier.ceiling, peak] at hle hplace hpeak ⊢
    omega
  | ofAccess _ ih =>
    have hle := height_le_add (ih hcost) hcost
    simp only [Tier.ceiling] at hle ⊢
    omega
  | filter _ _ ih =>
    rw [Expr.cost] at hcost
    have hle := ih (b := b) (by omega)
    rw [Expr.height, Expr.maxHeight, Expr.links, if_pos rfl]
    omega
  | ofFiltered _ ih | ofOrdering _ ih | ofEquality _ ih | ofContainment _ ih =>
    have hle := height_le_add (ih hcost) hcost
    simp only [Tier.ceiling] at hle ⊢
    omega
  | order _ hop _ ih ihr =>
    have htier := Comparison.tier_eq_ordering_iff.2 hop
    rw [Expr.cost, htier] at hcost
    rw [Expr.height, Expr.links, htier, if_pos rfl]
    refine height_operator ?_ (ih (by omega)) (ihr (by omega)) (by omega)
    simp only [Tier.ceiling]
    omega
  | equal _ hop _ ih ihr =>
    have htier := Comparison.tier_eq_equality_iff.2 hop
    rw [Expr.cost, htier] at hcost
    rw [Expr.height, Expr.links, htier, if_pos rfl]
    refine height_operator ?_ (ih (by omega)) (ihr (by omega)) (by omega)
    simp only [Tier.ceiling]
    omega
  | contains _ _ ih ihr =>
    rw [Expr.cost] at hcost
    rw [Expr.height, Expr.links, if_pos rfl]
    refine height_operator ?_ (ih (by omega)) (ihr (by omega)) (by omega)
    simp only [Tier.ceiling]
    omega
  | @and _ e _ more _ _ ih ihmore =>
    -- the operands stand side by side, so each of them has the whole budget
    rw [Expr.cost, Expr.maxCost_le_iff] at hcost
    have hcost' := List.forall_mem_cons.1 hcost
    have hall : ∀ e' ∈ e :: more.map fun p => p.2,
        e'.height flat ≤ e'.links .containment + Tier.containment.ceiling flat b :=
      List.forall_mem_cons.2 ⟨ih hcost'.1, List.forall_mem_map.2 fun p hp =>
        ihmore p hp (hcost'.2 p.2 (List.mem_map_of_mem hp))⟩
    have hmax := maxHeight_le_add hall fun e' he' => Nat.le_trans (e'.links_le_cost _) (hcost e' he')
    rw [Expr.height]
    simp only [Tier.ceiling] at hmax ⊢
    omega
  | ofConjunction _ ih =>
    have hle := ih hcost
    rw [Expr.links_eq_zero_of_rank (.inr (by decide))] at hle
    simp only [Tier.ceiling] at hle ⊢
    omega
  | @or _ e _ more _ _ ih ihmore =>
    rw [Expr.cost, Expr.maxCost_le_iff, List.forall_mem_cons] at hcost
    have hall : ∀ e' ∈ e :: more.map fun p => p.2,
        e'.height flat ≤ e'.links .conjunction + Tier.conjunction.ceiling flat b :=
      List.forall_mem_cons.2 ⟨ih hcost.1, List.forall_mem_map.2 fun p hp =>
        ihmore p hp (hcost.2 p.2 (List.mem_map_of_mem hp))⟩
    have hmax := maxHeight_le_add hall fun e' _ =>
      Nat.le_of_eq (Expr.links_eq_zero_of_rank (.inr (by decide)) e')
    rw [Expr.height]
    simp only [Tier.ceiling] at hmax ⊢
    omega

/-- The height of an expression is at most quadratic in its cost. -/
theorem height_bound (h : Derives .disjunction ts e) (flat : Nat) {n : Nat} (hcost : e.cost < n) :
    2 * e.height flat + 3 * n ≤ n * (5 * n + 4 * flat) := by
  obtain ⟨b, rfl⟩ : ∃ b, n = b + 1 := ⟨n - 1, by omega⟩
  have hle := h.height_le flat (Nat.le_of_lt_succ hcost)
  rw [Expr.links_eq_zero_of_rank (.inr (by decide)), Nat.zero_add] at hle
  rw [← ceiling_disjunction]
  omega

end Derives

end TemplateExpr
