/-
# Policies for names without a binding

The policies disagree about names without a binding and about nothing else.  What the strict and
the lenient policy forgive can be written into the expression as nil, and the policy that forgives
nothing then gives the same; and where a less forgiving policy does not stop at a name, a more
forgiving one goes the same way.

Main statements:
* `eval_eq_eval_nil`: the strict and the lenient policy as changes to the expression;
* `evalAs_continues`: a more forgiving policy goes on where a less forgiving one stops;
* `eval_agrees_of_not_endsUnbound`: the policies only differ in the error for names.
-/
import TemplateExpr.Proofs.Evaluation.Substitution

namespace TemplateExpr

namespace Context

/-- The context with another policy. -/
def withPolicy (c : Context) (policy : UnboundPolicy) : Context :=
  { c with config := c.config.withPolicy policy }

variable (c : Context) (role : Role)

/-- The policy has no say in what a filter is. -/
theorem filter?_withPolicy (p q : UnboundPolicy) (name : String) :
    (c.withPolicy p).config.filter? name = (c.withPolicy q).config.filter? name := rfl

/-- Under the lenient policy every name without a binding is read as nil. -/
theorem readsNil_lenient : (c.withPolicy .lenient).readsNil role = true := rfl

/-- Under the strict policy the base of an access is read as nil. -/
theorem readsNil_strict_base : (c.withPolicy .strict).readsNil .base = true := rfl

/-- Under the policy of errors no name is read as nil. -/
theorem readsNil_error : (c.withPolicy .error).readsNil role = false := rfl

end Context

/-! ## Nil in place of names -/

namespace Expr

/-- A name, or nil if it has no binding. -/
def boundOrNil (c : Context) (name : String) : Expr :=
  match c.get? name with
  | some _ => .var name
  | none => .literal .nil

/-- The expression with nil in place of every name without a binding to a part of which there is
access, be there parentheses between or not. -/
def nilBases (c : Context) (e : Expr) : Expr :=
  e.substitute (fun role name =>
    match role with
    | .base => boundOrNil c name
    | .itself => .var name) .itself

/-- The expression with nil in place of every name without a binding. -/
def nilNames (c : Context) (e : Expr) : Expr := e.substitute (fun _ => boundOrNil c) .itself

end Expr

namespace Context

variable (c : Context)

/-- Where a policy takes a name without a binding for nil, the name is to it what nil in its place
is to the policy that forgives nothing. -/
theorem evalAs_boundOrNil {p : UnboundPolicy} {role : Role}
    (hnil : (c.withPolicy p).readsNil role = true) (name : String) :
    (c.withPolicy p).evalAs role (.var name) =
      (c.withPolicy .error).evalAs role (Expr.boundOrNil c name) := by
  unfold Expr.boundOrNil
  cases h : c.get? name with
  | some v =>
    rw [evalAs_var_of_bound (c.withPolicy p) role h,
      evalAs_var_of_bound (c.withPolicy .error) role h]
  | none =>
    rw [evalAs_var_of_readsNil (c.withPolicy p) role h hnil, evalAs]

/-- The strict policy is the policy that forgives nothing, for the expression with nil in place
of the names without a binding in which there is access; the lenient policy is the same with nil in
place of all names without a binding. -/
theorem eval_eq_eval_nil (e : Expr) :
    (c.withPolicy .strict).eval e = (c.withPolicy .error).eval (e.nilBases c) ∧
      (c.withPolicy .lenient).eval e = (c.withPolicy .error).eval (e.nilNames c) := by
  constructor
  · refine stepwise_eq.evalAs_substitute (c.filter?_withPolicy .strict .error) ?_ .itself e
    intro role name
    cases role with
    | base => exact c.evalAs_boundOrNil c.readsNil_strict_base name
    | itself => rfl
  · refine stepwise_eq.evalAs_substitute (c.filter?_withPolicy .lenient .error) ?_ .itself e
    exact fun role name => c.evalAs_boundOrNil (c.readsNil_lenient role) name

example : Expr.nilBases (empty .new) (.index (.group (.var "a")) (.var "i")) =
    .index (.group (.literal .nil)) (.var "i") := rfl

end Context

/-! ## More forgiving policies -/

namespace Eval

variable {α β : Type} {m m' : Eval α}

/-- The second evaluation is the first one, or it goes on where the first one fails on a name
without a binding. -/
def Continues (m m' : Eval α) : Prop := m = m' ∨ m.EndsUnbound ∧ m.calls <+: m'.calls

/-- An evaluation that no name without a binding ends is the same under both. -/
theorem Continues.eq (h : Continues m m') (hm : ¬ m.EndsUnbound) : m = m' :=
  h.resolve_right fun hu => hm hu.1

/-- The calls of the first step come first. -/
theorem calls_prefix_bind (m : Eval α) (f : α → Eval β) : m.calls <+: (m >>= f).calls := by
  obtain ⟨outcome, calls⟩ := m
  cases outcome with
  | ok a =>
    rw [Traced.bind_ok]
    exact List.prefix_append _ _
  | error err => exact List.prefix_rfl

/-- Behind a name without a binding nothing is evaluated any more. -/
theorem EndsUnbound.bind (h : m.EndsUnbound) (f : α → Eval β) :
    (m >>= f).EndsUnbound ∧ (m >>= f).calls = m.calls := by
  obtain ⟨outcome, calls⟩ := m
  obtain ⟨name, rfl⟩ := h
  rw [Traced.bind_error]
  exact ⟨⟨name, rfl⟩, rfl⟩

/-- To continue is kept step by step. -/
theorem stepwise_continues : Stepwise @Continues where
  refl _ := .inl rfl
  bind {α β m m' f f'} hm hf := by
    rcases hm with rfl | ⟨hu, hcalls⟩
    · obtain ⟨outcome, calls⟩ := m
      cases outcome with
      | error err => exact .inl rfl
      | ok a =>
        rw [Traced.bind_ok, Traced.bind_ok]
        rcases hf a with heq | ⟨hu, hcalls⟩
        · rw [heq]
          exact .inl rfl
        · exact .inr ⟨hu, (List.prefix_append_right_inj calls).2 hcalls⟩
    · obtain ⟨hu, heq⟩ := hu.bind f
      refine .inr ⟨hu, ?_⟩
      rw [heq]
      exact hcalls.trans (calls_prefix_bind m' f')

/-- Not to end for a name without a binding is kept step by step. -/
theorem stepwise_not_endsUnbound : Stepwise fun _ m _ => ¬ EndsUnbound m where
  refl h := h
  bind {α β m m' f f'} hm hf := by
    obtain ⟨outcome, calls⟩ := m
    cases outcome with
    | ok a => exact hf a
    | error err =>
      rintro ⟨name, h⟩
      cases h
      exact hm ⟨name, rfl⟩

end Eval

namespace Context

variable (c : Context)

/-- A policy that forgives more goes on where one that forgives less stops. -/
theorem evalAs_continues {p q : UnboundPolicy}
    (h : ∀ role, (c.withPolicy p).readsNil role = true → (c.withPolicy q).readsNil role = true)
    (role : Role) (e : Expr) :
    Eval.Continues ((c.withPolicy p).evalAs role e) ((c.withPolicy q).evalAs role e) := by
  refine Eval.stepwise_continues.evalAs_congr (c.filter?_withPolicy p q) ?_ role e
  intro role name
  cases hget : c.get? name with
  | some v =>
    rw [evalAs_var_of_bound (c.withPolicy p) role hget,
      evalAs_var_of_bound (c.withPolicy q) role hget]
    exact .inl rfl
  | none =>
    cases hp : (c.withPolicy p).readsNil role with
    | true =>
      rw [evalAs_var_of_readsNil (c.withPolicy p) role hget hp,
        evalAs_var_of_readsNil (c.withPolicy q) role hget (h role hp)]
      exact .inl rfl
    | false =>
      rw [evalAs_var_of_unbound (c.withPolicy p) role hget hp]
      exact .inr ⟨⟨name, rfl⟩, List.nil_prefix⟩

/-- A policy that forgives everything never stops at a name. -/
theorem not_endsUnbound_evalAs {p : UnboundPolicy}
    (h : ∀ role, (c.withPolicy p).readsNil role = true) (role : Role) (e : Expr) :
    ¬ ((c.withPolicy p).evalAs role e).EndsUnbound := by
  refine Eval.stepwise_not_endsUnbound.evalAs_congr (c.filter?_withPolicy p p) ?_ role e
  intro role name
  cases hget : c.get? name with
  | some v =>
    rw [evalAs_var_of_bound (c.withPolicy p) role hget]
    exact Eval.not_endsUnbound_pure v
  | none =>
    rw [evalAs_var_of_readsNil (c.withPolicy p) role hget (h role)]
    exact Eval.not_endsUnbound_pure Value.nil

/-- Where a policy does not fail on a name without a binding, all that forgive more give the same
value or error after the same calls; the strict policy only fails so where the one that forgives
nothing does, and the lenient one never. -/
theorem eval_agrees_of_not_endsUnbound (e : Expr) :
    (¬ ((c.withPolicy .error).eval e).EndsUnbound →
      (c.withPolicy .strict).eval e = (c.withPolicy .error).eval e ∧
        (c.withPolicy .lenient).eval e = (c.withPolicy .error).eval e) ∧
    (¬ ((c.withPolicy .strict).eval e).EndsUnbound →
      (c.withPolicy .lenient).eval e = (c.withPolicy .strict).eval e) ∧
    (((c.withPolicy .strict).eval e).EndsUnbound →
      ((c.withPolicy .error).eval e).EndsUnbound) ∧
    ¬ ((c.withPolicy .lenient).eval e).EndsUnbound := by
  have herror : ∀ p, Eval.Continues ((c.withPolicy .error).eval e) ((c.withPolicy p).eval e) :=
    fun p => c.evalAs_continues (by simp [readsNil_error]) .itself e
  have hlenient : ∀ p, Eval.Continues ((c.withPolicy p).eval e) ((c.withPolicy .lenient).eval e) :=
    fun p => c.evalAs_continues (fun role _ => c.readsNil_lenient role) .itself e
  refine ⟨fun h => ⟨((herror _).eq h).symm, ((herror _).eq h).symm⟩,
    fun h => ((hlenient _).eq h).symm, fun hs => ?_,
    c.not_endsUnbound_evalAs c.readsNil_lenient .itself e⟩
  by_contra h
  rw [(herror .strict).eq h] at h
  exact h hs

/-- The three cases, on an access to a text, an access to a name and the name alone. -/
theorem eval_agrees_access :
    (¬ (((empty .new).withPolicy .error).eval
        (.field (.literal (.string "ab")) "first")).EndsUnbound ∧
      ((empty .new).withPolicy .lenient).eval (.field (.literal (.string "ab")) "first") =
        ((empty .new).withPolicy .error).eval (.field (.literal (.string "ab")) "first")) ∧
    (¬ (((empty .new).withPolicy .strict).eval (.field (.var "a") "b")).EndsUnbound ∧
      ((empty .new).withPolicy .lenient).eval (.field (.var "a") "b") =
        ((empty .new).withPolicy .strict).eval (.field (.var "a") "b")) ∧
    ((((empty .new).withPolicy .strict).eval (.var "a")).EndsUnbound ∧
      (((empty .new).withPolicy .error).eval (.var "a")).EndsUnbound) := by
  have htext : ¬ (((empty .new).withPolicy .error).eval
      (.field (.literal (.string "ab")) "first")).EndsUnbound := by
    rintro ⟨name, h⟩
    cases h
  have hbase : ¬ (((empty .new).withPolicy .strict).eval (.field (.var "a") "b")).EndsUnbound := by
    rintro ⟨name, h⟩
    cases h
  have hname : (((empty .new).withPolicy .strict).eval (.var "a")).EndsUnbound := ⟨"a", rfl⟩
  exact ⟨⟨htext, ((eval_agrees_of_not_endsUnbound _ _).1 htext).2⟩,
    ⟨hbase, (eval_agrees_of_not_endsUnbound _ _).2.1 hbase⟩,
    ⟨hname, (eval_agrees_of_not_endsUnbound _ _).2.2.1 hname⟩⟩

end Context

end TemplateExpr
