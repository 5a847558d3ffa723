/-
# The order of calls

The filters of an expression are called in the order in which they stand in the list of its nodes,
and none of them twice.  What is passed over are operands behind a decisive one; without
connectives the calls break off at an error and nowhere else.

Main statements:
* `CalledBy`: an evaluation makes the calls of some nodes, in their order;
* `CalledBy.bind`: so does a sequence of two evaluations;
* `calledBy_evalAs`: an expression makes the calls of its filters;
* `eval_calls_in_order`: which filters are called, and with which values.
-/
import Mathlib.Data.List.Forall2
import TemplateExpr.Eval.Basic
import TemplateExpr.Proofs.Evaluation.Parts

namespace TemplateExpr

/-! ## Calls of nodes -/

/-- The call is the one that the filter makes where it stands: by its name, with the value of its
input and the values of its arguments. -/
structure FilterNode.Makes (c : Context) (n : FilterNode) (call : Call) : Prop where
  name : call.filter = n.name
  input : (c.eval n.input).outcome = .ok call.input
  args : (c.evalArgs n.args).outcome = .ok call.args

namespace Eval

variable {α β : Type} {c : Context} {p q : Prop} {ns ns' : List FilterNode} {m : Eval α}

/-- The calls are those of some of the nodes, one call for a node, in the order of the nodes.
If `p` holds, they are the calls of the first nodes, and of all nodes if there is a value. -/
def CalledBy (c : Context) (p : Prop) (ns : List FilterNode) (m : Eval α) : Prop :=
  ∃ called : List FilterNode, called.Sublist ns ∧
    List.Forall₂ (FilterNode.Makes c) called m.calls ∧
    (p → called <+: ns ∧ ∀ a, m.outcome = .ok a → called = ns)

theorem CalledBy.mono (h : CalledBy c p ns m) (hq : q → p) : CalledBy c q ns m := by
  obtain ⟨called, hsub, hmakes, hp⟩ := h
  exact ⟨called, hsub, hmakes, fun h => hp (hq h)⟩

theorem calledBy_ofExcept (outcome : Except EvaluationError α) :
    CalledBy c p [] (.ofExcept outcome) :=
  ⟨[], .slnil, .nil, fun _ => ⟨List.prefix_rfl, fun _ _ => rfl⟩⟩

theorem calledBy_fail (e : EvaluationError) : CalledBy c p ns (.fail e : Eval α) :=
  ⟨[], List.nil_sublist ns, .nil, fun _ => ⟨List.nil_prefix, fun _ h => by cases h⟩⟩

theorem calledBy_callFilter {n : FilterNode} {filter : Filter} {input : Value} {args : List Value}
    (h : n.Makes c ⟨n.name, input, args⟩) :
    CalledBy c p [n] (callFilter n.name filter input args) :=
  ⟨[n], List.Sublist.refl _, .cons h .nil, fun _ => ⟨List.prefix_rfl, fun _ _ => rfl⟩⟩

/-- The calls of a sequence are those of its first half and, if that has a value, those of its
second half. -/
theorem CalledBy.bind {f : α → Eval β} (hm : CalledBy c p ns m)
    (hf : ∀ a, m.outcome = .ok a → CalledBy c p ns' (f a)) :
    CalledBy c p (ns ++ ns') (m >>= f) := by
  obtain ⟨called, hsub, hmakes, hp⟩ := hm
  obtain ⟨outcome, calls⟩ := m
  cases outcome with
  | error e =>
    refine ⟨called, hsub.trans (List.sublist_append_left ns ns'), hmakes, fun h => ⟨?_, ?_⟩⟩
    · exact (hp h).1.trans (List.prefix_append ns ns')
    · intro b hb
      cases hb
  | ok a =>
    obtain ⟨called', hsub', hmakes', hp'⟩ := hf a rfl
    refine ⟨called ++ called', hsub.append hsub', List.rel_append hmakes hmakes', fun h => ?_⟩
    obtain rfl : called = ns := (hp h).2 a rfl
    refine ⟨(List.prefix_append_right_inj called).2 (hp' h).1, fun b hb => ?_⟩
    rw [(hp' h).2 b hb]

/-- What makes no calls of its own adds none. -/
theorem CalledBy.bind_nil {f : α → Eval β} (hm : CalledBy c p ns m)
    (hf : ∀ a, CalledBy c p [] (f a)) : CalledBy c p ns (m >>= f) := by
  have h := hm.bind fun a _ => hf a
  rwa [List.append_nil] at h

/-- Nodes that are passed over make no calls. -/
theorem CalledBy.append (h : CalledBy c False ns m) (ns' : List FilterNode) :
    CalledBy c False (ns ++ ns') m := by
  obtain ⟨called, hsub, hmakes, -⟩ := h
  exact ⟨called, hsub.trans (List.sublist_append_left ns ns'), hmakes, False.elim⟩

end Eval

namespace Context

open Eval

variable {c : Context} {p : Prop}

/-! ## Lists of expressions -/

/-- Operands call their filters in order; those behind a decisive operand are not called. -/
theorem calledBy_evalOperands (op : Connective) {es : List Expr}
    (h : ∀ e ∈ es, CalledBy c False e.filterNodes (c.evalAs .itself e)) :
    CalledBy c False (es.flatMap Expr.filterNodes) (c.evalOperands op es) := by
  induction es with
  | nil =>
    rw [evalOperands]
    exact calledBy_ofExcept _
  | cons e es ih =>
    have htail : CalledBy c False (es.flatMap Expr.filterNodes) (c.evalOperands op es) :=
      ih fun d hd => h d (List.mem_cons_of_mem e hd)
    rw [evalOperands_cons, List.flatMap_cons]
    refine (h e List.mem_cons_self).bind fun v _ => ?_
    show CalledBy c False ([] ++ es.flatMap Expr.filterNodes) _
    refine (calledBy_ofExcept (v.truth op)).bind fun b _ => ?_
    split
    · exact (calledBy_ofExcept _).append _
    · exact htail

/-- Arguments call their filters in order. -/
theorem calledBy_evalArgs {es : List Expr}
    (h : ∀ e ∈ es, CalledBy c p e.filterNodes (c.evalAs .itself e)) :
    CalledBy c p (es.flatMap Expr.filterNodes) (c.evalArgs es) := by
  induction es with
  | nil =>
    rw [evalArgs]
    exact calledBy_ofExcept _
  | cons e es ih =>
    have htail : CalledBy c p (es.flatMap Expr.filterNodes) (c.evalArgs es) :=
      ih fun d hd => h d (List.mem_cons_of_mem e hd)
    rw [evalArgs, List.flatMap_cons]
    exact (h e List.mem_cons_self).bind fun v _ => htail.bind_nil fun vs => calledBy_ofExcept _

/-! ## Expressions -/

/-- An expression makes the calls of its filters. -/
theorem calledBy_evalAs (c : Context) (role : Role) (e : Expr) :
    CalledBy c e.IsStraight e.filterNodes (c.evalAs role e) := by
  induction e using Expr.inductParts generalizing role with
  | whole e ih =>
    have hpart : ∀ d ∈ e.parts, ∀ role,
        CalledBy c e.IsStraight d.filterNodes (c.evalAs role d) :=
      fun d hd role => (ih d hd role).mono fun h => h.of_mem_parts hd
    cases e with
    | literal v =>
      rw [evalAs, Expr.filterNodes_literal]
      exact calledBy_ofExcept _
    | var name =>
      rw [evalAs, Expr.filterNodes_var]
      exact calledBy_ofExcept _
    | field object name =>
      rw [evalAs, Expr.filterNodes_field]
      exact (hpart object (by simp) .base).bind_nil fun base => calledBy_ofExcept _
    | index object place =>
      rw [evalAs, Expr.filterNodes_index]
      exact (hpart object (by simp) .base).bind fun base _ =>
        (hpart place (by simp) .itself).bind_nil fun i => calledBy_ofExcept _
    | group inner =>
      rw [evalAs_group, Expr.filterNodes_group]
      exact hpart inner (by simp) role
    | compare op l r =>
      rw [evalAs, Expr.filterNodes_compare]
      refine (hpart l (by simp) .itself).bind fun v _ => ?_
      refine (hpart r (by simp) .itself).bind_nil fun w => ?_
      exact (calledBy_ofExcept (v.compareWith op w)).bind_nil fun b => calledBy_ofExcept _
    | logical op es =>
      have hes : CalledBy c False (es.flatMap Expr.filterNodes) (c.evalOperands op es) :=
        calledBy_evalOperands op fun d hd => (ih d hd .itself).mono False.elim
      rw [evalAs, Expr.filterNodes_logical]
      exact hes.mono (Expr.not_isStraight_logical op es)
    | contains l r =>
      rw [evalAs, Expr.filterNodes_contains]
      refine (hpart l (by simp) .itself).bind fun v _ => ?_
      refine (hpart r (by simp) .itself).bind_nil fun w => ?_
      exact (calledBy_ofExcept (v.containsValue w)).bind_nil fun b => calledBy_ofExcept _
    | filter input name args =>
      have hargs := calledBy_evalArgs fun d hd => hpart d (List.mem_cons_of_mem input hd) .itself
      rw [evalAs, Expr.filterNodes_filter]
      refine (hpart input (by simp) .itself).bind fun v hv => ?_
      -- the filter is looked up between its input and its arguments
      cases c.config.filter? name with
      | none => exact calledBy_fail _
      | some filter =>
        refine hargs.bind fun vs hvs => ?_
        exact calledBy_callFilter (n := ⟨input, name, args⟩) ⟨rfl, hv, hvs⟩

theorem map_filter_eq_of_makes {called : List FilterNode} {calls : List Call}
    (h : List.Forall₂ (FilterNode.Makes c) called calls) :
    calls.map Call.filter = called.map FilterNode.name := by
  induction h with
  | nil => rfl
  | cons hmakes _ ih => rw [List.map_cons, List.map_cons, hmakes.name, ih]

/-- The calls are those of some filters of the expression, in their order and one call for a
filter, each made by the name of its filter with the values of its input and its arguments.  In an
expression without connectives they are the calls of the first filters, and if it has a value, of
all of them. -/
theorem eval_calls_in_order (c : Context) (e : Expr) :
    ∃ called : List FilterNode, called.Sublist e.filterNodes ∧
      (c.eval e).calls.map Call.filter = called.map FilterNode.name ∧
      List.Forall₂ (FilterNode.Makes c) called (c.eval e).calls ∧
      (e.IsStraight → called <+: e.filterNodes ∧
        ∀ v, (c.eval e).outcome = .ok v → called = e.filterNodes) := by
  obtain ⟨called, hsub, hmakes, hstraight⟩ := calledBy_evalAs c .itself e
  exact ⟨called, hsub, map_filter_eq_of_makes hmakes, hmakes, hstraight⟩

/-- The filter in an argument is called before the filter that has the argument. -/
theorem eval_calls_in_order_argument :
    (Expr.filter (.literal .nil) "f" [.filter (.literal .nil) "g" []]).IsStraight ∧
      ((empty ((Config.new.register "f" fun v _ => .ok v).register "g" fun _ _ => .ok .nil)).eval
        (.filter (.literal .nil) "f" [.filter (.literal .nil) "g" []])).outcome = .ok .nil ∧
      ((empty ((Config.new.register "f" fun v _ => .ok v).register "g" fun _ _ => .ok .nil)).eval
        (.filter (.literal .nil) "f" [.filter (.literal .nil) "g" []])).calls.map Call.filter =
          ["g", "f"] := by
  have hstraight : (Expr.filter (.literal .nil) "f"
      [.filter (.literal .nil) "g" []]).IsStraight := by
    simp [Expr.IsStraight, Expr.nodes, Expr.nodesOfAll]
  obtain ⟨called, -, hnames, -, hall⟩ := eval_calls_in_order
    (empty ((Config.new.register "f" fun v _ => .ok v).register "g" fun _ _ => .ok .nil))
    (.filter (.literal .nil) "f" [.filter (.literal .nil) "g" []])
  refine ⟨hstraight, rfl, ?_⟩
  rw [hnames, (hall hstraight).2 .nil rfl]
  rfl

end Context

end TemplateExpr
