/-
# Folding of parts

A part of an expression that has a value can be replaced by the value.  Where the part is the base
of an access it is evaluated in another role than for itself; but the roles differ only in the
names without a binding that one of them forgives, and a part that has a value needs no
forgiveness.

Main statements:
* `mem_nodes_iff_exists_fill`: the nodes of an expression are what can stand in a hole of it;
* `evalAs_eq_eval_of_ok`: a part that has a value has it in every role;
* `eval_fill_literal`: the value in place of the part changes nothing.
-/
import TemplateExpr.Proofs.Evaluation.Congruence
import TemplateExpr.Proofs.Evaluation.Parts

namespace TemplateExpr

/-! ## Holes -/

namespace Expr

/-- An expression with a hole in the place of one node. -/
inductive Hole where
  | here
  | inField (object : Hole) (name : String)
  | inObject (object : Hole) (place : Expr)
  | inPlace (object : Expr) (place : Hole)
  | inGroup (inner : Hole)
  | inCompareLeft (op : Comparison) (left : Hole) (right : Expr)
  | inCompareRight (op : Comparison) (left : Expr) (right : Hole)
  | inOperand (op : Connective) (before : List Expr) (operand : Hole) (after : List Expr)
  | inContainsLeft (left : Hole) (right : Expr)
  | inContainsRight (left : Expr) (right : Hole)
  | inInput (input : Hole) (name : String) (args : List Expr)
  | inArg (input : Expr) (name : String) (before : List Expr) (arg : Hole) (after : List Expr)

/-- The expression with `s` in the hole. -/
@[simp] def Hole.fill (s : Expr) : Hole → Expr
  | .here => s
  | .inField object name => .field (fill s object) name
  | .inObject object place => .index (fill s object) place
  | .inPlace object place => .index object (fill s place)
  | .inGroup inner => .group (fill s inner)
  | .inCompareLeft op left right => .compare op (fill s left) right
  | .inCompareRight op left right => .compare op left (fill s right)
  | .inOperand op before operand after => .logical op (before ++ fill s operand :: after)
  | .inContainsLeft left right => .contains (fill s left) right
  | .inContainsRight left right => .contains left (fill s right)
  | .inInput input name args => .filter (fill s input) name args
  | .inArg input name before arg after => .filter input name (before ++ fill s arg :: after)

/-- What fills a hole of a part fills a hole of the whole. -/
theorem exists_fill_of_mem_parts {e d s : Expr} (hd : d ∈ e.parts) {k : Hole}
    (hk : k.fill s = d) : ∃ k' : Hole, k'.fill s = e := by
  cases e with
  | literal v => simp at hd
  | var name => simp at hd
  | field object name =>
    obtain rfl : d = object := by simpa using hd
    exact ⟨.inField k name, by rw [Hole.fill, hk]⟩
  | index object place =>
    obtain rfl | rfl : d = object ∨ d = place := by simpa using hd
    · exact ⟨.inObject k place, by rw [Hole.fill, hk]⟩
    · exact ⟨.inPlace object k, by rw [Hole.fill, hk]⟩
  | group inner =>
    obtain rfl : d = inner := by simpa using hd
    exact ⟨.inGroup k, by rw [Hole.fill, hk]⟩
  | compare op l r =>
    obtain rfl | rfl : d = l ∨ d = r := by simpa using hd
    · exact ⟨.inCompareLeft op k r, by rw [Hole.fill, hk]⟩
    · exact ⟨.inCompareRight op l k, by rw [Hole.fill, hk]⟩
  | logical op es =>
    obtain ⟨before, after, rfl⟩ := List.append_of_mem hd
    exact ⟨.inOperand op before k after, by rw [Hole.fill, hk]⟩
  | contains l r =>
    obtain rfl | rfl : d = l ∨ d = r := by simpa using hd
    · exact ⟨.inContainsLeft k r, by rw [Hole.fill, hk]⟩
    · exact ⟨.inContainsRight l k, by rw [Hole.fill, hk]⟩
  | filter input name args =>
    rcases List.mem_cons.1 hd with rfl | hd
    · exact ⟨.inInput k name args, by rw [Hole.fill, hk]⟩
    · obtain ⟨before, after, rfl⟩ := List.append_of_mem hd
      exact ⟨.inArg input name before k after, by rw [Hole.fill, hk]⟩

/-- What fills a hole is a node of the whole. -/
theorem mem_nodes_fill (s : Expr) (k : Hole) : s ∈ (k.fill s).nodes := by
  induction k with
  | here => exact mem_nodes_self s
  | inField _ _ ih | inObject _ _ ih | inPlace _ _ ih | inGroup _ ih | inCompareLeft _ _ _ ih
  | inCompareRight _ _ _ ih | inOperand _ _ _ _ ih | inContainsLeft _ _ ih
  | inContainsRight _ _ ih | inInput _ _ _ ih | inArg _ _ _ _ _ ih =>
    exact mem_nodes_of_mem_parts (by simp) ih

/-- The nodes of an expression are what stands in its holes. -/
theorem mem_nodes_iff_exists_fill {s e : Expr} : s ∈ e.nodes ↔ ∃ k : Hole, k.fill s = e := by
  constructor
  · intro h
    induction e using Expr.inductParts with
    | whole e ih =>
      rcases mem_nodes_iff.1 h with rfl | ⟨d, hd, hs⟩
      · exact ⟨.here, rfl⟩
      · obtain ⟨k, hk⟩ := ih d hd hs
        exact exists_fill_of_mem_parts hd hk
  · rintro ⟨k, rfl⟩
    exact mem_nodes_fill s k

end Expr

/-! ## Evaluation around a hole -/

/-- Lists that are related at one place and the same elsewhere are related. -/
theorem forall₂_append_cons {α : Type} {R : α → α → Prop} (hself : ∀ a, R a a) {a b : α}
    (h : R a b) (before after : List α) :
    List.Forall₂ R (before ++ a :: after) (before ++ b :: after) := by
  have hall : ∀ l : List α, List.Forall₂ R l l := fun l => List.forall₂_same.2 fun x _ => hself x
  exact List.rel_append (hall before) (.cons h (hall after))

/-- A relation that every evaluation has to itself passes from what is in a hole to the whole. -/
theorem Stepwise.evalAs_fill {R : (α : Type) → Eval α → Eval α → Prop} (hR : Stepwise R)
    (hself : ∀ m : Eval Value, R _ m m) {c : Context} {s t : Expr}
    (h : ∀ role, R _ (c.evalAs role s) (c.evalAs role t)) (k : Expr.Hole) (role : Role) :
    R _ (c.evalAs role (k.fill s)) (c.evalAs role (k.fill t)) := by
  have hall : ∀ {d d' : Expr}, R _ (c.evalAs .itself d) (c.evalAs .itself d') → ∀ before after,
      List.Forall₂ (fun e e' => R _ (c.evalAs .itself e) (c.evalAs .itself e'))
        (before ++ d :: after) (before ++ d' :: after) :=
    fun hd => forall₂_append_cons (fun e => hself (c.evalAs .itself e)) hd
  induction k generalizing role with
  | here => exact h role
  | inField object name ih => exact hR.field role name (ih .base)
  | inObject object place ih => exact hR.index role (ih .base) (hself _)
  | inPlace object place ih => exact hR.index role (hself _) (ih .itself)
  | inGroup inner ih =>
    rw [Expr.Hole.fill, Expr.Hole.fill, Context.evalAs_group, Context.evalAs_group]
    exact ih role
  | inCompareLeft op left right ih => exact hR.compare role op (ih .itself) (hself _)
  | inCompareRight op left right ih => exact hR.compare role op (hself _) (ih .itself)
  | inOperand op before operand after ih =>
    exact hR.logical role (hall (ih .itself) before after) op
  | inContainsLeft left right ih => exact hR.contains role (ih .itself) (hself _)
  | inContainsRight left right ih => exact hR.contains role (hself _) (ih .itself)
  | inInput input name args ih =>
    exact hR.filter role (List.forall₂_same.2 fun e _ => hself _) rfl (ih .itself)
  | inArg input name before arg after ih =>
    exact hR.filter role (hall (ih .itself) before after) rfl (hself _)

/-! ## Values in place of parts -/

namespace Eval

variable {α : Type}

/-- The second evaluation comes to the same with some of the calls left out. -/
def Shortens (m m' : Eval α) : Prop := m'.outcome = m.outcome ∧ m'.calls.Sublist m.calls

theorem shortens_refl (m : Eval α) : Shortens m m := ⟨rfl, List.Sublist.refl _⟩

theorem stepwise_shortens : Stepwise @Shortens where
  refl _ := shortens_refl _
  bind {α β m m' f f'} hm hf := by
    obtain ⟨outcome, calls⟩ := m
    obtain ⟨outcome', calls'⟩ := m'
    obtain ⟨rfl, hcalls⟩ := hm
    cases outcome' with
    | error err => exact ⟨rfl, hcalls⟩
    | ok a =>
      rw [Traced.bind_ok, Traced.bind_ok]
      exact ⟨(hf a).1, hcalls.append (hf a).2⟩

end Eval

namespace Context

variable (c : Context)

/-- A role that is forgiven for itself is forgiven as a base. -/
theorem readsNil_of_itself (h : c.readsNil .itself = true) (role : Role) :
    c.readsNil role = true := by
  revert h
  unfold readsNil
  cases c.config.unbound <;> simp

/-- An expression that has a value has it in every role. -/
theorem evalAs_eq_eval_of_ok {s : Expr} {v : Value} (h : (c.eval s).outcome = .ok v)
    (role : Role) : c.evalAs role s = c.eval s := by
  unfold eval at h ⊢
  -- a role matters to names only, and parentheses pass it on
  induction s using Expr.induct with
  | var name =>
    cases hget : c.get? name with
    | some w => rw [evalAs_var_of_bound c role hget, evalAs_var_of_bound c .itself hget]
    | none =>
      cases hnil : c.readsNil .itself with
      | true =>
        rw [evalAs_var_of_readsNil c role hget (c.readsNil_of_itself hnil role),
          evalAs_var_of_readsNil c .itself hget hnil]
      | false =>
        rw [evalAs_var_of_unbound c .itself hget hnil] at h
        cases h
  | group inner ih =>
    rw [evalAs_group] at h
    rw [evalAs_group, evalAs_group]
    exact ih h
  | _ => rw [evalAs, evalAs]

/-- A part that has a value can be replaced by the value: the value or error of the whole is the
same, and there are no other calls of filters than before. -/
theorem eval_fill_literal (k : Expr.Hole) {s : Expr} {v : Value}
    (h : (c.eval s).outcome = .ok v) :
    (c.eval (k.fill (.literal v))).outcome = (c.eval (k.fill s)).outcome ∧
      (c.eval (k.fill (.literal v))).calls.Sublist (c.eval (k.fill s)).calls := by
  refine Eval.stepwise_shortens.evalAs_fill Eval.shortens_refl (fun role => ?_) k .itself
  rw [c.evalAs_eq_eval_of_ok h role, evalAs]
  exact ⟨h.symm, List.nil_sublist _⟩

/-- The base of an access, between parentheses, with a call of a filter in it. -/
theorem eval_fill_literal_base :
    ((ofBindings [("x", .string "ab")] (Config.new.register "f" fun v _ => .ok v)).eval
        (.filter (.var "x") "f" [])).outcome = .ok (.string "ab") ∧
      ((ofBindings [("x", .string "ab")] (Config.new.register "f" fun v _ => .ok v)).eval
          (.field (.group (.literal (.string "ab"))) "last")).outcome =
        ((ofBindings [("x", .string "ab")] (Config.new.register "f" fun v _ => .ok v)).eval
          (.field (.group (.filter (.var "x") "f" [])) "last")).outcome := by
  have h : ((ofBindings [("x", .string "ab")] (Config.new.register "f" fun v _ => .ok v)).eval
      (.filter (.var "x") "f" [])).outcome = .ok (.string "ab") := rfl
  exact ⟨h, (eval_fill_literal _ (.inField (.inGroup .here) "last") h).1⟩

end Context

end TemplateExpr
