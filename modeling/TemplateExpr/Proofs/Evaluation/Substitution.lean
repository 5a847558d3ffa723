/-
# Substitution for names

Other expressions can take the place of the names of an expression.  What takes the place of a
name can depend on what the name is evaluated for: its own value, or access to a part of it.

Main statements:
* `Stepwise.evalAs_substitute_of_mentions`: what relates the names of an expression to what takes
  their place relates the whole expressions;
* `Stepwise.evalAs_congr_of_mentions`: what relates the names of an expression in two contexts
  relates the expression in them.
-/
import TemplateExpr.Proofs.Evaluation.Congruence
import TemplateExpr.Proofs.Evaluation.Parts

namespace TemplateExpr

namespace Expr

mutual

/-- The expression, evaluated in the given role, with `f` in place of the names. -/
def substitute (f : Role → String → Expr) : Role → Expr → Expr
  | _, .literal value => .literal value
  | role, .var name => f role name
  | _, .field object name => .field (substitute f .base object) name
  | _, .index object place => .index (substitute f .base object) (substitute f .itself place)
  | role, .group inner => .group (substitute f role inner)
  | _, .compare op left right =>
    .compare op (substitute f .itself left) (substitute f .itself right)
  | _, .logical op operands => .logical op (substituteAll f operands)
  | _, .contains left right => .contains (substitute f .itself left) (substitute f .itself right)
  | _, .filter input name args => .filter (substitute f .itself input) name (substituteAll f args)

/-- The expressions, each evaluated for itself, with `f` in place of the names. -/
def substituteAll (f : Role → String → Expr) : List Expr → List Expr
  | [] => []
  | e :: es => substitute f .itself e :: substituteAll f es

end

theorem substituteAll_eq_map (f : Role → String → Expr) (es : List Expr) :
    substituteAll f es = es.map (substitute f .itself) := by
  induction es with
  | nil => rfl
  | cons e es ih => rw [substituteAll, ih, List.map_cons]

/-- Every name in its own place leaves the expression as it is. -/
theorem substitute_var (e : Expr) (role : Role) : e.substitute (fun _ => .var) role = e := by
  have hall : ∀ {es : List Expr}, (∀ e ∈ es, ∀ role, e.substitute (fun _ => .var) role = e) →
      substituteAll (fun _ => .var) es = es := by
    intro es hes
    rw [substituteAll_eq_map, List.map_congr_left fun e he => hes e he .itself, List.map_id']
  induction e using Expr.induct generalizing role with
  | literal v => rfl
  | var n => rfl
  | field object name ih => rw [substitute, ih]
  | index object place ih ihplace => rw [substitute, ih, ihplace]
  | group inner ih => rw [substitute, ih]
  | compare op l r ihl ihr => rw [substitute, ihl, ihr]
  | logical op es ih => rw [substitute, hall ih]
  | contains l r ihl ihr => rw [substitute, ihl, ihr]
  | filter input name args ih ihargs => rw [substitute, ih, hall ihargs]

end Expr

namespace Stepwise

variable {R : (α : Type) → Eval α → Eval α → Prop} (hR : Stepwise R) {c c' : Context}

include hR

/-- What relates the names that an expression mentions to what takes their place relates the whole
expressions, if the filters that the expression applies are the same. -/
theorem evalAs_substitute_of_mentions {f : Role → String → Expr} (role : Role) (e : Expr)
    (hfilters : ∀ name, e.Applies name → c.config.filter? name = c'.config.filter? name)
    (hf : ∀ role name, e.Mentions name →
      R _ (c.evalAs role (.var name)) (c'.evalAs role (f role name))) :
    R _ (c.evalAs role e) (c'.evalAs role (e.substitute f role)) := by
  induction e using Expr.inductParts generalizing role with
  | whole e ih =>
    have hpart : ∀ d ∈ e.parts, ∀ role,
        R _ (c.evalAs role d) (c'.evalAs role (d.substitute f role)) := fun d hd role =>
      ih d hd role (fun name h => hfilters name (h.of_mem_parts hd))
        (fun role name h => hf role name (h.of_mem_parts hd))
    have hall : ∀ es : List Expr, es ⊆ e.parts →
        List.Forall₂ (fun e e' => R _ (c.evalAs .itself e) (c'.evalAs .itself e')) es
          (Expr.substituteAll f es) := by
      intro es hes
      rw [Expr.substituteAll_eq_map, List.forall₂_map_right_iff, List.forall₂_same]
      exact fun d hd => hpart d (hes hd) .itself
    cases e with
    | literal v => exact hR.literal role v
    | var name => exact hf role name (Expr.mentions_var name)
    | field object name => exact hR.field role name (hpart object (by simp) .base)
    | index object place =>
      exact hR.index role (hpart object (by simp) .base) (hpart place (by simp) .itself)
    | group inner =>
      rw [Expr.substitute, Context.evalAs_group, Context.evalAs_group]
      exact hpart inner (by simp) role
    | compare op l r =>
      exact hR.compare role op (hpart l (by simp) .itself) (hpart r (by simp) .itself)
    | logical op es => exact hR.logical role (hall es (by simp)) op
    | contains l r =>
      exact hR.contains role (hpart l (by simp) .itself) (hpart r (by simp) .itself)
    | filter input name args =>
      exact hR.filter role (hall args (by simp))
        (hfilters name (Expr.applies_filter input name args)) (hpart input (by simp) .itself)

/-- What relates the names that an expression mentions in two contexts relates the expression in
them, if the filters that it applies are the same. -/
theorem evalAs_congr_of_mentions (role : Role) (e : Expr)
    (hfilters : ∀ name, e.Applies name → c.config.filter? name = c'.config.filter? name)
    (hvar : ∀ role name, e.Mentions name →
      R _ (c.evalAs role (.var name)) (c'.evalAs role (.var name))) :
    R _ (c.evalAs role e) (c'.evalAs role e) := by
  have h := hR.evalAs_substitute_of_mentions role e hfilters hvar
  rwa [Expr.substitute_var] at h

variable (hfilters : ∀ name, c.config.filter? name = c'.config.filter? name)

include hfilters

/-- What relates every name to what takes its place relates the whole expressions. -/
theorem evalAs_substitute {f : Role → String → Expr}
    (hf : ∀ role name, R _ (c.evalAs role (.var name)) (c'.evalAs role (f role name)))
    (role : Role) (e : Expr) : R _ (c.evalAs role e) (c'.evalAs role (e.substitute f role)) :=
  hR.evalAs_substitute_of_mentions role e (fun name _ => hfilters name)
    (fun role name _ => hf role name)

/-- What relates every name in two contexts relates every expression in them. -/
theorem evalAs_congr
    (hvar : ∀ role name, R _ (c.evalAs role (.var name)) (c'.evalAs role (.var name)))
    (role : Role) (e : Expr) : R _ (c.evalAs role e) (c'.evalAs role e) :=
  hR.evalAs_congr_of_mentions role e (fun name _ => hfilters name)
    (fun role name _ => hvar role name)

end Stepwise

end TemplateExpr
