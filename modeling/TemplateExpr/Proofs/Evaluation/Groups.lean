/-
# Groups

Parentheses tell a parser what belongs together.  Once there is a tree they have no work left: a
group passes on what its inside is evaluated for, so that it forgives neither more nor less than its
inside would in its place.  Any of the groups of an expression can be left out.

Main statements:
* `ungroup_none`, `not_mem_nodes_ungroup_all`: no group is left out, or every one;
* `evalAs_ungroup`: an expression with some of its groups left out, in every role;
* `eval_ungroup`: the same for its own value.
-/
import TemplateExpr.Proofs.Evaluation.Congruence
import TemplateExpr.Proofs.Evaluation.Parts

namespace TemplateExpr

/-! ## Sets of nodes -/

/-- A set of nodes of an expression.  A node is given by the way to it from the root: at each node
on the way, the number of the part that the way goes on to. -/
abbrev NodeSet : Type := List Nat → Bool

/-- The nodes of the set that stand in the part with the given number, seen from that part. -/
def NodeSet.inPart (s : NodeSet) (i : Nat) : NodeSet := fun way => s (i :: way)

theorem NodeSet.inPart_const (b : Bool) (i : Nat) : inPart (fun _ => b) i = fun _ => b := rfl

namespace Expr

/-! ## Leaving out groups -/

mutual

/-- The expression without those of its groups that are in the set: in the place of each stands its
inside. -/
def ungroup (s : NodeSet) : Expr → Expr
  | .literal value => .literal value
  | .var name => .var name
  | .field object name => .field (ungroup (s.inPart 0) object) name
  | .index object place => .index (ungroup (s.inPart 0) object) (ungroup (s.inPart 1) place)
  | .group inner =>
    if s [] then ungroup (s.inPart 0) inner else .group (ungroup (s.inPart 0) inner)
  | .compare op left right =>
    .compare op (ungroup (s.inPart 0) left) (ungroup (s.inPart 1) right)
  | .logical op operands => .logical op (ungroupAll s 0 operands)
  | .contains left right => .contains (ungroup (s.inPart 0) left) (ungroup (s.inPart 1) right)
  | .filter input name args => .filter (ungroup (s.inPart 0) input) name (ungroupAll s 1 args)

/-- The same for parts that are numbered from `i` on. -/
def ungroupAll (s : NodeSet) (i : Nat) : List Expr → List Expr
  | [] => []
  | e :: es => ungroup (s.inPart i) e :: ungroupAll s (i + 1) es

end

theorem ungroupAll_const (b : Bool) (i : Nat) (es : List Expr) :
    ungroupAll (fun _ => b) i es = es.map (ungroup fun _ => b) := by
  induction es generalizing i with
  | nil => rfl
  | cons e es ih =>
    rw [ungroupAll, ih, NodeSet.inPart_const, List.map_cons]

/-- Of the groups in the base of an access only the inner one is left out. -/
example : ungroup (fun way => way == [0, 0, 0] || way == [1])
    (.index (.group (.field (.group (.var "a")) "b")) (.group (.var "i"))) =
      .index (.group (.field (.var "a") "b")) (.var "i") := rfl

/-- Without a node in the set the expression stays as it is. -/
theorem ungroup_none (e : Expr) : e.ungroup (fun _ => false) = e := by
  have hall : ∀ {es : List Expr} (i : Nat), (∀ e ∈ es, e.ungroup (fun _ => false) = e) →
      ungroupAll (fun _ => false) i es = es := by
    intro es i hes
    rw [ungroupAll_const, List.map_congr_left hes, List.map_id']
  induction e using Expr.induct with
  | literal v => rfl
  | var name => rfl
  | field object name ih => rw [ungroup, NodeSet.inPart_const, ih]
  | index object place ih ihplace =>
    rw [ungroup, NodeSet.inPart_const, NodeSet.inPart_const, ih, ihplace]
  | group inner ih =>
    rw [ungroup, NodeSet.inPart_const, ih]
    rfl
  | compare op l r ihl ihr => rw [ungroup, NodeSet.inPart_const, NodeSet.inPart_const, ihl, ihr]
  | logical op es ih => rw [ungroup, hall 0 ih]
  | contains l r ihl ihr => rw [ungroup, NodeSet.inPart_const, NodeSet.inPart_const, ihl, ihr]
  | filter input name args ih ihargs => rw [ungroup, NodeSet.inPart_const, ih, hall 1 ihargs]

/-- With all nodes in the set no group is left. -/
theorem not_mem_nodes_ungroup_all (e inner : Expr) :
    .group inner ∉ (e.ungroup fun _ => true).nodes := by
  induction e using Expr.induct with
  | group inner' ih => exact ih
  | literal | var => simp [ungroup, nodes]
  | field _ _ ih => simpa [ungroup, nodes, NodeSet.inPart_const] using ih
  | index _ _ ih ihplace => simpa [ungroup, nodes, NodeSet.inPart_const] using ⟨ih, ihplace⟩
  | compare _ _ _ ihl ihr | contains _ _ ihl ihr =>
    simpa [ungroup, nodes, NodeSet.inPart_const] using ⟨ihl, ihr⟩
  | logical op es ih =>
    simpa [ungroup, nodes, ungroupAll_const, nodesOfAll_eq_flatMap] using ih
  | filter input name args ih ihargs =>
    simpa [ungroup, nodes, NodeSet.inPart_const, ungroupAll_const, nodesOfAll_eq_flatMap]
      using ⟨ih, ihargs⟩

end Expr

/-! ## Evaluation -/

theorem forall₂_ungroupAll {R : Expr → Expr → Prop} {es : List Expr}
    (h : ∀ e ∈ es, ∀ s, R (e.ungroup s) e) (s : NodeSet) (i : Nat) :
    List.Forall₂ R (Expr.ungroupAll s i es) es := by
  induction es generalizing i with
  | nil => exact .nil
  | cons e es ih =>
    obtain ⟨he, hes⟩ := List.forall_mem_cons.1 h
    exact .cons (he _) (ih hes (i + 1))

namespace Context

variable (c : Context)

/-- An expression with some of its groups left out is evaluated like the expression. -/
theorem evalAs_ungroup (role : Role) (e : Expr) (s : NodeSet) :
    c.evalAs role (e.ungroup s) = c.evalAs role e := by
  have hall : ∀ {es : List Expr},
      (∀ e ∈ es, ∀ role s, c.evalAs role (e.ungroup s) = c.evalAs role e) → ∀ s i,
      List.Forall₂ (fun e e' => c.evalAs .itself e = c.evalAs .itself e')
        (Expr.ungroupAll s i es) es :=
    fun hes => forall₂_ungroupAll fun e he => hes e he .itself
  induction e using Expr.induct generalizing role s with
  | literal v => rfl
  | var name => rfl
  | field object name ih => exact stepwise_eq.field role name (ih .base _)
  | index object place ih ihplace => exact stepwise_eq.index role (ih .base _) (ihplace .itself _)
  | group inner ih =>
    rw [Expr.ungroup, evalAs_group]
    split
    · exact ih role _
    · rw [evalAs_group, ih]
  | compare op l r ihl ihr => exact stepwise_eq.compare role op (ihl .itself _) (ihr .itself _)
  | logical op es ih => exact stepwise_eq.logical role (hall ih s 0) op
  | contains l r ihl ihr => exact stepwise_eq.contains role (ihl .itself _) (ihr .itself _)
  | filter input name args ih ihargs =>
    exact stepwise_eq.filter role (hall ihargs s 1) rfl (ih .itself _)

/-- Any of the groups of an expression can be left out: the value or error is the same, and so are
the calls of filters. -/
theorem eval_ungroup (e : Expr) (s : NodeSet) : c.eval (e.ungroup s) = c.eval e :=
  c.evalAs_ungroup .itself e s

end Context

end TemplateExpr
