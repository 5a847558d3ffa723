/-
# Chains as wholes

An access, a filter and an operator each make a chain longer by one link.  The cost of an expression
is given link by link; for a chain as a whole it comes to this: the link at the `i`-th place is `i`
levels deep, and what it holds is counted from there.

Main statements:
* `exists_foldl`: every expression is a chain over one that is none;
* `forall_attach_iff`: a cost for each link is a cost for the whole chain;
* `costsByChains_cost`, `CostsByChains.eq_cost`: the rules for whole chains have the cost as their
  only solution.
-/
import Mathlib.Data.List.Basic
import Mathlib.Data.List.Induction
import TemplateExpr.Proofs.Grammar.Cost

namespace TemplateExpr

/-! ## The greatest of some numbers -/

/-- The greatest of some numbers, or zero if there are none. -/
def greatest (ns : List Nat) : Nat := ns.foldr max 0

/-- One more number at the end may be the greatest. -/
theorem greatest_concat (ns : List Nat) (n : Nat) : greatest (ns ++ [n]) = max (greatest ns) n := by
  induction ns with
  | nil => simp [greatest]
  | cons m ns ih =>
    show max m (greatest (ns ++ [n])) = max (max m (greatest ns)) n
    rw [ih, Nat.max_assoc]

namespace Expr

/-! ## Chains of a tier -/

section

variable {α : Type} {K : Tier} {attach : Expr → α → Expr}

/-- What is attached is one more link of a chain of the tier, and chains of the tier have no other
links. -/
structure Attaches (K : Tier) (attach : Expr → α → Expr) : Prop where
  links : ∀ e a, (attach e a).links K = e.links K + 1
  exists_attach : ∀ e : Expr, e.links K ≠ 0 → ∃ e' a, e = attach e' a

/-- A chain has as many links as are attached to it. -/
theorem Attaches.links_foldl (h : Attaches K attach) {base : Expr} (hbase : base.links K = 0)
    (as : List α) : (as.foldl attach base).links K = as.length := by
  induction as using List.reverseRecOn with
  | nil => exact hbase
  | append_singleton as a ih => rw [List.foldl_concat, h.links, ih, List.length_append]; rfl

/-- Every expression is a chain of the tier over one that is none. -/
theorem Attaches.exists_foldl (h : Attaches K attach) (e : Expr) :
    ∃ (base : Expr) (as : List α), base.links K = 0 ∧ e = as.foldl attach base := by
  generalize hn : e.links K = n
  induction n generalizing e with
  | zero => exact ⟨e, [], hn, rfl⟩
  | succ n ih =>
    obtain ⟨e', a, rfl⟩ := h.exists_attach e (by omega)
    rw [h.links] at hn
    obtain ⟨base, as, hbase, rfl⟩ := ih e' (by omega)
    exact ⟨base, as ++ [a], hbase, by rw [List.foldl_concat]⟩

/-- To say for each link what it costs is to say for every chain what it costs. -/
theorem Attaches.forall_attach_iff (h : Attaches K attach) {cost : Expr → Nat} {held : α → Nat} :
    (∀ e a, cost (attach e a) = max (cost e) (e.links K + 1 + held a)) ↔
      ∀ (base : Expr) (as : List α), base.links K = 0 → cost (as.foldl attach base) =
        max (cost base) (greatest (as.mapIdx fun i a => i + 1 + held a)) := by
  constructor
  · intro hlink base as hbase
    induction as using List.reverseRecOn with
    | nil => simp [greatest]
    | append_singleton as a ih =>
      rw [List.foldl_concat, hlink, ih, h.links_foldl hbase, List.mapIdx_concat, greatest_concat,
        Nat.max_assoc]
  · intro hchain e a
    obtain ⟨base, as, hbase, rfl⟩ := h.exists_foldl e
    have hlonger : attach (as.foldl attach base) a = (as ++ [a]).foldl attach base :=
      (List.foldl_concat attach base a as).symm
    -- the chain with the link and the chain without it
    rw [hlonger, hchain base _ hbase, hchain base _ hbase, h.links_foldl hbase,
      List.mapIdx_concat, greatest_concat, Nat.max_assoc]

end

/-! ## Links -/

/-- A link of an access chain. -/
inductive AccessLink where
  | field (name : String)
  | index (place : Expr)

/-- An access chain with one more link. -/
def AccessLink.attach (object : Expr) : AccessLink → Expr
  | .field name => .field object name
  | .index place => .index object place

/-- An operator of which the chains are deep. -/
inductive DeepOperator where
  | compare (op : Comparison)
  | contains

/-- The tier of the operator. -/
def DeepOperator.tier : DeepOperator → Tier
  | .compare op => op.tier
  | .contains => .containment

/-- The expression that the operator makes of its operands. -/
def DeepOperator.node : DeepOperator → Expr → Expr → Expr
  | .compare op => .compare op
  | .contains => .contains

/-- A filter with its arguments, of which a source can give it none. -/
def attachFilter (input : Expr) (filter : String × List Expr) : Expr :=
  .filter input filter.1 filter.2

/-- An operator of the tier with its right operand. -/
def attachOperand {K : Tier} (left : Expr) (link : { op : DeepOperator // op.tier = K } × Expr) :
    Expr :=
  link.1.val.node left link.2

/-- Attributes and indices are the links of access chains. -/
theorem attaches_access : Attaches .access AccessLink.attach where
  links e a := by cases a <;> simp [AccessLink.attach, links]
  exists_attach e h := by
    cases e with
    | field object name => exact ⟨object, .field name, rfl⟩
    | index object place => exact ⟨object, .index place, rfl⟩
    | compare op l r =>
      cases op <;> simp [links, Comparison.tier, Comparison.asksEquality] at h
    | _ => simp [links] at h

/-- Filters are the links of their chains. -/
theorem attaches_filter : Attaches .filtered attachFilter where
  links e a := by simp [attachFilter, links]
  exists_attach e h := by
    cases e with
    | filter input name args => exact ⟨input, (name, args), rfl⟩
    | compare op l r =>
      cases op <;> simp [links, Comparison.tier, Comparison.asksEquality] at h
    | _ => simp [links] at h

/-- Operators with their right operands are the links of their chains. -/
theorem attaches_operand {K : Tier} (hK : K ∈ [Tier.ordering, .equality, .containment]) :
    Attaches K (attachOperand (K := K)) where
  links e a := by
    obtain ⟨⟨op, hop⟩, right⟩ := a
    subst hop
    cases op <;> simp [attachOperand, DeepOperator.node, DeepOperator.tier, links]
  exists_attach e h := by
    cases e with
    | compare op l r =>
      have htier : K = op.tier := by
        by_contra hne
        simp [links, hne] at h
      exact ⟨l, (⟨.compare op, htier.symm⟩, r), rfl⟩
    | contains l r =>
      have htier : K = .containment := by
        by_contra hne
        simp [links, hne] at h
      exact ⟨l, (⟨.contains, htier.symm⟩, r), rfl⟩
    | field | index | filter =>
      rcases List.mem_cons.1 hK with rfl | hK <;> simp_all [links]
    | _ => simp [links] at h

/-! ## Rules for whole chains -/

/-- What the cost is, chain by chain.  Places are counted from zero, levels from one. -/
structure CostsByChains (cost : Expr → Nat) : Prop where
  literal : ∀ v, cost (.literal v) = 0
  var : ∀ name, cost (.var name) = 0
  group : ∀ inner, cost (.group inner) = 1 + cost inner
  logical : ∀ op operands, cost (.logical op operands) = greatest (operands.map cost)
  /-- All links, and what is between the brackets of those that are indices. -/
  access : ∀ (base : Expr) (as : List AccessLink), base.links .access = 0 →
    cost (as.foldl AccessLink.attach base) =
      max (cost base) (max as.length (greatest (as.mapIdx fun i a =>
        match a with
        | .field _ => 0
        | .index place => (i + 1) + 1 + cost place)))
  /-- All filters. -/
  filtered : ∀ (input : Expr) (filters : List (String × List Expr)), input.links .filtered = 0 →
    cost (filters.foldl attachFilter input) = max (cost input) filters.length
  /-- The operands behind the first one, each as deep as its place. -/
  operators : ∀ K ∈ [Tier.ordering, .equality, .containment], ∀ (first : Expr)
    (as : List ({ op : DeepOperator // op.tier = K } × Expr)), first.links K = 0 →
    cost (as.foldl attachOperand first) =
      max (cost first) (greatest (as.mapIdx fun i a => (i + 1) + cost a.2))

/-- What a link of an access chain holds. -/
def AccessLink.held (cost : Expr → Nat) : AccessLink → Nat
  | .field _ => 0
  | .index place => 1 + cost place

/-- What holds nothing costs its own level, and an index costs one more than its inside. -/
theorem greatest_access (cost : Expr → Nat) (as : List AccessLink) :
    max as.length (greatest (as.mapIdx fun i a =>
        match a with
        | .field _ => 0
        | .index place => (i + 1) + 1 + cost place)) =
      greatest (as.mapIdx fun i a => i + 1 + a.held cost) := by
  induction as using List.reverseRecOn with
  | nil => rfl
  | append_singleton as a ih =>
    rw [List.mapIdx_concat, List.mapIdx_concat, greatest_concat, greatest_concat, ← ih,
      List.length_append, List.length_singleton]
    cases a with
    | field name =>
      simp only [AccessLink.held]
      omega
    | index place =>
      simp only [AccessLink.held]
      omega

/-- If the links hold nothing, the last one is the deepest. -/
theorem greatest_places {α : Type} (as : List α) :
    greatest (as.mapIdx fun i _ => i + 1 + 0) = as.length := by
  induction as using List.reverseRecOn with
  | nil => rfl
  | append_singleton as a ih =>
    rw [List.mapIdx_concat, greatest_concat, ih, List.length_append, List.length_singleton]
    omega

/-- The cost of some expressions is the greatest of their costs. -/
theorem maxCost_eq_greatest (es : List Expr) : maxCost es = greatest (es.map cost) := by
  induction es with
  | nil => rfl
  | cons e es ih =>
    show max e.cost (maxCost es) = max e.cost (greatest (es.map cost))
    rw [ih]

/-- The cost obeys the rules for whole chains. -/
theorem costsByChains_cost : CostsByChains cost where
  literal _ := rfl
  var _ := rfl
  group _ := rfl
  logical _ operands := maxCost_eq_greatest operands
  access base as hbase := by
    rw [greatest_access]
    refine attaches_access.forall_attach_iff.1 (fun e a => ?_) base as hbase
    cases a <;> rfl
  filtered input filters hinput := by
    rw [← greatest_places filters]
    exact attaches_filter.forall_attach_iff.1 (fun _ _ => rfl) input filters hinput
  operators K hK first as hfirst := by
    refine (attaches_operand hK).forall_attach_iff.1 (fun e a => ?_) first as hfirst
    obtain ⟨⟨op, rfl⟩, right⟩ := a
    cases op <;> rfl

/-- Nothing but the cost obeys the rules for whole chains. -/
theorem CostsByChains.eq_cost {cost' : Expr → Nat} (h : CostsByChains cost') : cost' = cost := by
  -- the rules for chains, link by link
  have haccess := attaches_access.forall_attach_iff.2 fun base as hbase =>
    (h.access base as hbase).trans (by rw [greatest_access])
  have hfilter := attaches_filter.forall_attach_iff.2 fun input filters hinput =>
    (h.filtered input filters hinput).trans (by rw [← greatest_places filters])
  have hoperator := fun K hK => (attaches_operand hK).forall_attach_iff.2 (h.operators K hK)
  funext e
  induction e using Expr.induct with
  | literal v => exact h.literal v
  | var name => exact h.var name
  | field object name ih =>
    calc cost' (.field object name) = max (cost' object) (object.links .access + 1 + 0) :=
          haccess object (.field name)
      _ = cost (.field object name) := by rw [ih]; rfl
  | index object place ih ihplace =>
    calc cost' (.index object place) =
          max (cost' object) (object.links .access + 1 + (1 + cost' place)) :=
          haccess object (.index place)
      _ = cost (.index object place) := by rw [ih, ihplace]; rfl
  | group inner ih => rw [h.group, ih, cost]
  | compare op l r ihl ihr =>
    have hK : op.tier ∈ [Tier.ordering, .equality, .containment] := by cases op <;> decide
    calc cost' (.compare op l r) = max (cost' l) (l.links op.tier + 1 + cost' r) :=
          hoperator op.tier hK l (⟨.compare op, rfl⟩, r)
      _ = cost (.compare op l r) := by rw [ihl, ihr]; rfl
  | logical op operands ih =>
    rw [h.logical, cost, maxCost_eq_greatest, List.map_congr_left ih]
  | contains l r ihl ihr =>
    calc cost' (.contains l r) = max (cost' l) (l.links .containment + 1 + cost' r) :=
          hoperator .containment (by decide) l (⟨.contains, rfl⟩, r)
      _ = cost (.contains l r) := by rw [ihl, ihr]; rfl
  | filter input name args ih =>
    calc cost' (.filter input name args) = max (cost' input) (input.links .filtered + 1 + 0) :=
          hfilter input (name, args)
      _ = cost (.filter input name args) := by rw [ih]; rfl

end Expr

end TemplateExpr
