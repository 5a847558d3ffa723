/-
# Congruence of evaluation

A relation between evaluations that every step without a name keeps is carried from the parts of
an expression to the whole of it.  The two evaluations can differ in the expression and in the
context; only the filters have to be the same.

Main statements:
* `evalAs_var_congr`: a name has the same value where its binding and the policy are the same;
* `Stepwise`: what is asked of such a relation;
* `Stepwise.field` to `Stepwise.filter`: each form of an expression keeps the relation.
-/
import Mathlib.Data.List.Forall2
import TemplateExpr.Eval.Basic

namespace TemplateExpr

/-! ## Names -/

namespace Context

variable (c : Context) {name : String} (role : Role)

/-- A name that is bound has its value in every role. -/
theorem evalAs_var_of_bound {v : Value} (h : c.get? name = some v) :
    c.evalAs role (.var name) = pure v := by
  rw [evalAs, lookup, h]
  rfl

/-- A name that is not bound is nil where the policy allows it. -/
theorem evalAs_var_of_readsNil (h : c.get? name = none) (hnil : c.readsNil role = true) :
    c.evalAs role (.var name) = pure .nil := by
  rw [evalAs, lookup, h]
  simp only [hnil, if_true]
  rfl

/-- A name that is not bound is an error where the policy does not read it as nil. -/
theorem evalAs_var_of_unbound (h : c.get? name = none) (hnil : c.readsNil role = false) :
    c.evalAs role (.var name) = .fail (.unbound name) := by
  rw [evalAs, lookup, h]
  simp only [hnil]
  rfl

variable {c} {c' : Context}

/-- Which names are read as nil depends on the policy only. -/
theorem readsNil_congr (h : c.config.unbound = c'.config.unbound) :
    c.readsNil role = c'.readsNil role := by
  unfold readsNil
  rw [h]

/-- A name has the same value where its binding and the policy are the same. -/
theorem evalAs_var_congr (hpolicy : c.config.unbound = c'.config.unbound)
    (h : c.get? name = c'.get? name) : c.evalAs role (.var name) = c'.evalAs role (.var name) := by
  rw [evalAs, evalAs, lookup, lookup, h, readsNil_congr role hpolicy]

end Context

/-! ## Names without a binding -/

namespace Eval

variable {α : Type}

/-- The evaluation fails on a name without a binding. -/
def EndsUnbound (m : Eval α) : Prop := ∃ name, m.outcome = .error (.unbound name)

/-- A value is no error for an unbound name. -/
theorem not_endsUnbound_pure (a : α) : ¬ EndsUnbound (pure a) := by
  rintro ⟨name, h⟩
  cases h

/-- The error for an unknown filter is not that for an unbound name. -/
theorem not_endsUnbound_unknownFilter (name : String) :
    ¬ EndsUnbound (.fail (.unknownFilter name) : Eval α) := by
  rintro ⟨name', h⟩
  cases h

/-- No comparison of values fails for an unbound name. -/
theorem not_endsUnbound_compareWith (op : Comparison) (l r : Value) :
    ¬ EndsUnbound (.ofExcept (l.compareWith op r)) := by
  rintro ⟨name, h⟩
  cases op with
  | equal | notEqual => cases h
  | less | greater | lessEqual | greaterEqual =>
    simp only [Traced.ofExcept, Value.compareWith] at h
    split at h <;> cases h

/-- Whether a value contains another one never fails for an unbound name. -/
theorem not_endsUnbound_containsValue (l r : Value) :
    ¬ EndsUnbound (.ofExcept (l.containsValue r)) := by
  rintro ⟨name, h⟩
  simp only [Traced.ofExcept] at h
  unfold Value.containsValue at h
  split at h <;> cases h

/-- No operand of a connective fails for an unbound name when its truth is asked for. -/
theorem not_endsUnbound_truth (op : Connective) (v : Value) :
    ¬ EndsUnbound (.ofExcept (v.truth op)) := by
  rintro ⟨name, h⟩
  cases v <;> cases h

/-- No call of a filter fails for an unbound name. -/
theorem not_endsUnbound_callFilter (name : String) (filter : Filter) (input : Value)
    (args : List Value) : ¬ EndsUnbound (callFilter name filter input args) := by
  rintro ⟨name', h⟩
  simp only [callFilter] at h
  cases hf : filter input args <;> rw [hf] at h <;> cases h

end Eval

/-! ## Relations between evaluations -/

/-- The relation holds between an evaluation that no name without a binding ends and itself, and
between sequences of related evaluations. -/
structure Stepwise (R : (α : Type) → Eval α → Eval α → Prop) : Prop where
  refl {α : Type} {m : Eval α} : ¬ m.EndsUnbound → R α m m
  bind {α β : Type} {m m' : Eval α} {f f' : α → Eval β} :
    R α m m' → (∀ a, R β (f a) (f' a)) → R β (m >>= f) (m' >>= f')

/-- Equality is a relation that is kept step by step. -/
theorem stepwise_eq : Stepwise fun _ m m' => m = m' where
  refl _ := rfl
  bind hm hf := by rw [hm, funext hf]

namespace Stepwise

variable {R : (α : Type) → Eval α → Eval α → Prop} (hR : Stepwise R) {c c' : Context}
  (role : Role)

include hR

/-- A value is related to itself. -/
theorem pure {α : Type} (a : α) : R α (pure a) (pure a) := hR.refl (Eval.not_endsUnbound_pure a)

/-- A literal is related to itself under any two contexts. -/
theorem literal (v : Value) : R _ (c.evalAs role (.literal v)) (c'.evalAs role (.literal v)) := by
  rw [Context.evalAs, Context.evalAs]
  exact hR.pure v

/-- Attributes are related if their objects are. -/
theorem field {object object' : Expr} (name : String)
    (h : R _ (c.evalAs .base object) (c'.evalAs .base object')) :
    R _ (c.evalAs role (.field object name)) (c'.evalAs role (.field object' name)) := by
  rw [Context.evalAs, Context.evalAs]
  exact hR.bind h fun base => hR.pure _

/-- Indices are related if their objects and their places are. -/
theorem index {object object' place place' : Expr}
    (h : R _ (c.evalAs .base object) (c'.evalAs .base object'))
    (hplace : R _ (c.evalAs .itself place) (c'.evalAs .itself place')) :
    R _ (c.evalAs role (.index object place)) (c'.evalAs role (.index object' place')) := by
  rw [Context.evalAs, Context.evalAs]
  exact hR.bind h fun base => hR.bind hplace fun i => hR.pure _

/-- Comparisons are related if both of their sides are. -/
theorem compare {l l' r r' : Expr} (op : Comparison)
    (hl : R _ (c.evalAs .itself l) (c'.evalAs .itself l'))
    (hr : R _ (c.evalAs .itself r) (c'.evalAs .itself r')) :
    R _ (c.evalAs role (.compare op l r)) (c'.evalAs role (.compare op l' r')) := by
  rw [Context.evalAs, Context.evalAs]
  refine hR.bind hl fun v => hR.bind hr fun w => hR.bind ?_ fun b => hR.pure _
  exact hR.refl (Eval.not_endsUnbound_compareWith op v w)

/-- Containments are related if both of their sides are. -/
theorem contains {l l' r r' : Expr}
    (hl : R _ (c.evalAs .itself l) (c'.evalAs .itself l'))
    (hr : R _ (c.evalAs .itself r) (c'.evalAs .itself r')) :
    R _ (c.evalAs role (.contains l r)) (c'.evalAs role (.contains l' r')) := by
  rw [Context.evalAs, Context.evalAs]
  refine hR.bind hl fun v => hR.bind hr fun w => hR.bind ?_ fun b => hR.pure _
  exact hR.refl (Eval.not_endsUnbound_containsValue v w)

variable {es es' : List Expr}
  (hes : List.Forall₂ (fun e e' => R _ (c.evalAs .itself e) (c'.evalAs .itself e')) es es')

include hes

/-- Operands are related, as far as they are evaluated, if they are so one by one. -/
theorem evalOperands (op : Connective) : R _ (c.evalOperands op es) (c'.evalOperands op es') := by
  induction hes with
  | nil =>
    rw [Context.evalOperands, Context.evalOperands]
    exact hR.pure _
  | cons he _ ih =>
    rw [Context.evalOperands_cons, Context.evalOperands_cons]
    refine hR.bind he fun v => hR.bind (hR.refl (Eval.not_endsUnbound_truth op v)) fun b => ?_
    split
    · exact hR.pure _
    · exact ih

/-- Chains of a connective are related if their operands are. -/
theorem logical (op : Connective) :
    R _ (c.evalAs role (.logical op es)) (c'.evalAs role (.logical op es')) := by
  rw [Context.evalAs, Context.evalAs]
  exact hR.evalOperands hes op

/-- Arguments are related if they are so one by one. -/
theorem evalArgs : R _ (c.evalArgs es) (c'.evalArgs es') := by
  induction hes with
  | nil =>
    rw [Context.evalArgs, Context.evalArgs]
    exact hR.pure _
  | cons he _ ih =>
    rw [Context.evalArgs, Context.evalArgs]
    exact hR.bind he fun v => hR.bind ih fun vs => hR.pure _

/-- Filters are related if their inputs and arguments are and the name means the same filter. -/
theorem filter {input input' : Expr} {name : String}
    (hfilter : c.config.filter? name = c'.config.filter? name)
    (hinput : R _ (c.evalAs .itself input) (c'.evalAs .itself input')) :
    R _ (c.evalAs role (.filter input name es)) (c'.evalAs role (.filter input' name es')) := by
  rw [Context.evalAs, Context.evalAs, hfilter]
  refine hR.bind hinput fun v => ?_
  cases c'.config.filter? name with
  | none => exact hR.refl (Eval.not_endsUnbound_unknownFilter name)
  | some filter =>
    exact hR.bind (hR.evalArgs hes) fun vs =>
      hR.refl (Eval.not_endsUnbound_callFilter name filter v vs)

end Stepwise

end TemplateExpr
