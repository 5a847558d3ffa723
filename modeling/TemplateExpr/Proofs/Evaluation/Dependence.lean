/-
# What an evaluation takes from its context

An expression sees of a context the policy, the values of the names that it mentions and the
filters that it applies, and nothing else.  A name that is bound is to it what the value in the
place of the name is.

Main statements:
* `eval_eq_of_agrees`: contexts that agree on what an expression sees give it the same value;
* `eval_bind_eq_eval_assign`: binding a name is writing its value into the expression.
-/
import TemplateExpr.Eval.Source
import TemplateExpr.Proofs.Evaluation.Substitution

namespace TemplateExpr

/-! ## Values in place of a name -/

namespace Expr

/-- The expression with a value in place of a name, wherever the name stands. -/
def assign (e : Expr) (name : String) (value : Value) : Expr :=
  e.substitute (fun _ n => if n = name then .literal value else .var n) .itself

end Expr

namespace Context

variable (c : Context)

/-- A name sees a binding as the value in its place. -/
theorem evalAs_var_bind (name : String) (value : Value) (role : Role) (n : String) :
    (c.bind name value).evalAs role (.var n) =
      c.evalAs role (if n = name then .literal value else .var n) := by
  by_cases h : n = name
  · have hget : (c.bind name value).get? n = some value := by rw [get?_bind, if_pos h.symm]
    rw [evalAs_var_of_bound (c.bind name value) role hget, if_pos h, evalAs]
  · have hget : (c.bind name value).get? n = c.get? n := by
      rw [get?_bind, if_neg fun h' => h h'.symm]
    rw [evalAs_var_congr role (by rw [config_bind]) hget, if_neg h]

/-- Binding a name, of a context or of a closure, is writing its value in the place of the name:
the value or error is the same, and so are the calls of filters. -/
theorem eval_bind_eq_eval_assign (e : Expr) (name : String) (value : Value) :
    (c.bind name value).eval e = c.eval (e.assign name value) ∧
      (Closure.bind ⟨e, c⟩ name value).eval = c.eval (e.assign name value) := by
  have h : (c.bind name value).eval e = c.eval (e.assign name value) :=
    stepwise_eq.evalAs_substitute (fun n => by rw [config_bind]) (c.evalAs_var_bind name value)
      .itself e
  exact ⟨h, by rw [Closure.eval_bind, h]⟩

/-- The name of a field and the name of a filter are no names to be bound. -/
example : Expr.assign (.filter (.field (.var "x") "x") "x" [.var "y", .var "x"]) "x" .nil =
    .filter (.field (.literal .nil) "x") "x" [.var "y", .literal .nil] := rfl

/-! ## Contexts that agree -/

/-- The contexts have the same policy and agree on all names and filters of the expression. -/
structure Agrees (c c' : Context) (e : Expr) : Prop where
  policy : c.config.unbound = c'.config.unbound
  names : ∀ name, e.Mentions name → c.get? name = c'.get? name
  filters : ∀ name, e.Applies name → c.config.filter? name = c'.config.filter? name

/-- Contexts that agree on an expression give it the same value or error after the same calls of
filters, whatever else is bound or registered in them. -/
theorem eval_eq_of_agrees {c c' : Context} {e : Expr} (h : Agrees c c' e) : c.eval e = c'.eval e :=
  stepwise_eq.evalAs_congr_of_mentions .itself e h.filters fun role name hname =>
    evalAs_var_congr role h.policy (h.names name hname)

/-- A binding of another name and another filter make no difference. -/
theorem eval_eq_of_agrees_unused :
    Agrees ((empty (Config.new.register "f" fun v _ => .ok v)).bind "x" (.boolean true))
        (((empty ((Config.new.register "f" fun v _ => .ok v).register "g" fun _ _ => .ok .nil)).bind
          "x" (.boolean true)).bind "y" .nil)
        (.filter (.field (.var "x") "y") "f" [.var "x"]) ∧
      ((empty (Config.new.register "f" fun v _ => .ok v)).bind "x" (.boolean true)).eval
          (.filter (.field (.var "x") "y") "f" [.var "x"]) =
        (((empty ((Config.new.register "f" fun v _ => .ok v).register "g" fun _ _ => .ok .nil)).bind
          "x" (.boolean true)).bind "y" .nil).eval
          (.filter (.field (.var "x") "y") "f" [.var "x"]) := by
  refine ⟨?agrees, eval_eq_of_agrees ?agrees⟩
  refine ⟨rfl, fun name hname => ?_, fun name hname => ?_⟩
  · have hx : name = "x" := by simpa [Expr.Mentions, Expr.nodes, Expr.nodesOfAll] using hname
    subst hx
    simp [get?_bind]
  · have hf : name = "f" := by
      simpa [Expr.Applies, Expr.nodes, Expr.nodesOfAll, eq_comm] using hname
    subst hf
    simp [bind, empty, Config.filter?_register]

end Context

end TemplateExpr
