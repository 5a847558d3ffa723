/-
# The cost of an expression

How many levels a parser has to enter inside an expression.  Every link of a chain is one level
deeper than the one before it, and what a link holds is entered from there; the left part of a
chain, however, has been left again when its links are entered.

Main statements:
* `Derives.links_eq_zero`: an expression of a tighter tier is no chain of the tier;
* `Derives.cost_le`: the cost is at most twice the number of tokens.
-/
import TemplateExpr.Proofs.Grammar.Derivation

namespace TemplateExpr

namespace Expr

/-- The number of links in the chain of the tier that the expression is. -/
def links (K : Tier) : Expr → Nat
  | .field object _ => if K = .access then links K object + 1 else 0
  | .index object _ => if K = .access then links K object + 1 else 0
  | .filter input _ _ => if K = .filtered then links K input + 1 else 0
  | .compare op left _ => if K = op.tier then links K left + 1 else 0
  | .contains left _ => if K = .containment then links K left + 1 else 0
  | _ => 0

mutual

/-- The number of levels to be entered inside an expression. -/
def cost : Expr → Nat
  | .literal _ => 0
  | .var _ => 0
  | .field object _ => max (cost object) (object.links .access + 1)
  | .index object place => max (cost object) (object.links .access + 1 + (1 + cost place))
  | .group inner => 1 + cost inner
  | .compare op left right => max (cost left) (left.links op.tier + 1 + cost right)
  | .logical _ operands => maxCost operands
  | .contains left right => max (cost left) (left.links .containment + 1 + cost right)
  | .filter input _ _ => max (cost input) (input.links .filtered + 1)

/-- The greatest cost of some expressions, or zero if there are none. -/
def maxCost : List Expr → Nat
  | [] => 0
  | e :: es => max (cost e) (maxCost es)

end

theorem maxCost_le_iff {es : List Expr} {n : Nat} : maxCost es ≤ n ↔ ∀ e ∈ es, e.cost ≤ n := by
  induction es with
  | nil => simp [maxCost]
  | cons e es ih => rw [maxCost, Nat.max_le, ih, List.forall_mem_cons]

/-- A chain of a connective costs no more than the most expensive one of its operands. -/
theorem cost_logical_lt {op : Connective} {es : List Expr} {n : Nat} (hne : es ≠ [])
    (h : ∀ e ∈ es, e.cost < n) : (logical op es).cost < n := by
  obtain ⟨e, es, rfl⟩ := List.exists_cons_of_ne_nil hne
  have hpos := h e List.mem_cons_self
  have hle : maxCost (e :: es) ≤ n - 1 := by
    rw [maxCost_le_iff]
    intro d hd
    have hlt := h d hd
    omega
  rw [cost]
  omega

end Expr

namespace Derives

variable {T K : Tier} {ts : List Token} {e : Expr}

/-! ## Chains -/

/-- An expression of a tighter tier is no chain of the tier. -/
theorem links_eq_zero (h : Derives T ts e) (hlt : T.rank < K.rank) : e.links K = 0 := by
  induction h with
  | integer | float | string | boolean | nil | var | group | and | or => rfl
  | ofPrimary _ ih | ofAccess _ ih | ofFiltered _ ih | ofOrdering _ ih | ofEquality _ ih
    | ofContainment _ ih | ofConjunction _ ih =>
    simp only [Tier.rank] at hlt ih
    exact ih (by omega)
  | field | index | filter | contains =>
    rw [Expr.links, if_neg]
    rintro rfl
    simp [Tier.rank] at hlt
  | order _ hop =>
    rw [Expr.links, Comparison.tier_eq_ordering_iff.2 hop, if_neg]
    rintro rfl
    simp [Tier.rank] at hlt
  | equal _ hop =>
    rw [Expr.links, Comparison.tier_eq_equality_iff.2 hop, if_neg]
    rintro rfl
    simp [Tier.rank] at hlt

/-- Every link takes a token. -/
theorem links_le (h : Derives T ts e) : e.links K ≤ ts.length := by
  induction h with
  | integer | float | string | boolean | nil | var | group | and | or => simp [Expr.links]
  | ofPrimary _ ih | ofAccess _ ih | ofFiltered _ ih | ofOrdering _ ih | ofEquality _ ih
    | ofContainment _ ih | ofConjunction _ ih => exact ih
  | field _ _ ih | index _ _ ih | filter _ _ ih | order _ _ _ ih | equal _ _ _ ih
    | contains _ _ ih =>
    rw [Expr.links]
    split
    · simp only [List.length_append, List.length_cons]
      omega
    · exact Nat.zero_le _

/-! ## Length -/

/-- An operand is no longer than all operands with the token in front of each. -/
theorem length_le_flatMap {t : Token} {p : List Token × Expr} {more : List (List Token × Expr)}
    (hp : p ∈ more) : p.1.length ≤ (more.flatMap fun p => t :: p.1).length := by
  have hmem : t :: p.1 ∈ more.map fun p => t :: p.1 := List.mem_map_of_mem hp
  have hle := (List.sublist_flatten_of_mem hmem).length_le
  rw [List.length_cons] at hle
  rw [List.flatMap_def]
  omega

/-- The cost is at most twice the number of tokens. -/
theorem cost_le (h : Derives T ts e) : e.cost ≤ 2 * ts.length := by
  induction h with
  | integer | float | string | boolean | nil | var => simp [Expr.cost]
  | ofPrimary _ ih | ofAccess _ ih | ofFiltered _ ih | ofOrdering _ ih | ofEquality _ ih
    | ofContainment _ ih | ofConjunction _ ih => exact ih
  | group _ ih =>
    simp only [Expr.cost, List.length_cons, List.length_append]
    omega
  | field h _ ih =>
    have hlinks := h.links_le (K := .access)
    simp only [Expr.cost, List.length_cons, List.length_append, List.length_nil]
    omega
  | index h _ ih ihp =>
    have hlinks := h.links_le (K := .access)
    simp only [Expr.cost, List.length_cons, List.length_append, List.length_nil]
    omega
  | filter h _ ih =>
    have hlinks := h.links_le (K := .filtered)
    simp only [Expr.cost, List.length_cons, List.length_append, List.length_nil]
    omega
  | @order _ _ _ _ op h _ _ ih ihr | @equal _ _ _ _ op h _ _ ih ihr =>
    have hlinks := h.links_le (K := op.tier)
    simp only [Expr.cost, List.length_cons, List.length_append]
    omega
  | contains h _ ih ihr =>
    have hlinks := h.links_le (K := .containment)
    simp only [Expr.cost, List.length_cons, List.length_append]
    omega
  | and _ more _ _ ih ihmore | or _ more _ _ ih ihmore =>
    rw [Expr.cost, Expr.maxCost_le_iff]
    intro e' he'
    rw [List.length_append]
    rcases List.mem_cons.1 he' with rfl | he'
    · omega
    · obtain ⟨p, hp, rfl⟩ := List.mem_map.1 he'
      calc p.2.cost ≤ 2 * p.1.length := ihmore p hp
        _ ≤ _ := Nat.mul_le_mul_left 2 (Nat.le_add_left_of_le (length_le_flatMap hp))

/-- A literal and a name cost nothing. -/
theorem cost_of_singleton {t : Token} (h : Derives .primary [t] e) : e.cost = 0 := by
  generalize hts : [t] = ts at h
  cases h with
  | group => simp at hts
  | integer | float | string | boolean | nil | var => rfl

end Derives

end TemplateExpr
