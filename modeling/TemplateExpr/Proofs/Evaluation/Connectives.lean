/-
# Chains of connectives

The operands of a chain are evaluated one after the other as long as they pass: as long as each has
the truth value that leaves the chain open.  The first one that does not pass settles the chain, and
what stands behind it is not looked at.  So it makes no difference how chains of one connective are
nested: a chain that is an operand of another one passes where all of its operands do, and is
settled by what would settle the other one.

Main statements:
* `evalOperands_of_passes`, `evalOperands_of_not_passes`: one operand;
* `eval_logical_shortCircuit`: the operand that settles a chain, and the calls up to it;
* `evalOperands_logical_cons`: a chain for an operand;
* `evalOperands_unnested`: chains nested in any way;
* `eval_logical_nested`: chains side by side, nested to the left and nested to the right.
-/
import Mathlib.Data.List.Basic
import TemplateExpr.Eval.Basic

namespace TemplateExpr

/-- The truth value that leaves a chain of the connective open. -/
def Connective.neutral : Connective → Bool
  | .and => true
  | .or => false

/-- The truth value that leaves a chain open is the one that does not decide it. -/
theorem Connective.neutral_eq_not_decisive (op : Connective) : op.neutral = !op.decisive := by
  cases op <;> rfl

/-- What a chain of the connective comes to at an operand that does not pass. -/
def Connective.settle (op : Connective) : Except EvaluationError Value →
    Except EvaluationError Value
  | .ok (.boolean b) => .ok (.boolean b)
  | .ok other => .error (.mismatch (.logical op) (.wrongKind .boolean other.kind))
  | .error err => .error err

namespace Context

variable {c : Context} {op : Connective} {e : Expr}

/-! ## Operands that pass -/

/-- The operand has the truth value that leaves a chain of the connective open. -/
def Passes (c : Context) (op : Connective) (e : Expr) : Prop :=
  (c.eval e).outcome = .ok (.boolean op.neutral)

/-- The calls of some expressions that are evaluated one after the other. -/
def callsOf (c : Context) (es : List Expr) : List Call := es.flatMap fun e => (c.eval e).calls

/-- The calls of the first expression come first. -/
theorem callsOf_cons (c : Context) (e : Expr) (es : List Expr) :
    c.callsOf (e :: es) = (c.eval e).calls ++ c.callsOf es := rfl

/-- Behind an operand that passes the chain goes on. -/
theorem evalOperands_of_passes (h : c.Passes op e) (es : List Expr) :
    c.evalOperands op (e :: es) =
      ⟨(c.evalOperands op es).outcome, (c.eval e).calls ++ (c.evalOperands op es).calls⟩ := by
  unfold Passes at h
  rw [evalOperands_cons]
  show (c.eval e >>= _) = _
  cases hm : c.eval e with
  | mk outcome calls =>
    rw [hm] at h
    obtain rfl : outcome = _ := h
    rw [Traced.bind_ok]
    cases op <;> rfl

/-- At an operand that does not pass the chain ends. -/
theorem evalOperands_of_not_passes (h : ¬ c.Passes op e) (es : List Expr) :
    c.evalOperands op (e :: es) = ⟨op.settle (c.eval e).outcome, (c.eval e).calls⟩ := by
  unfold Passes at h
  rw [evalOperands_cons]
  show (c.eval e >>= _) = _
  cases hm : c.eval e with
  | mk outcome calls =>
    rw [hm] at h
    cases outcome with
    | error err => rfl
    | ok v =>
      rw [Traced.bind_ok]
      -- nothing is called behind the operand
      cases v with
      | boolean b =>
        obtain rfl : b = op.decisive := by
          cases b <;> cases op <;> simp [Connective.decisive, Connective.neutral] at h ⊢
        cases op <;> exact congrArg (Traced.mk _) (List.append_nil calls)
      | _ => exact congrArg (Traced.mk _) (List.append_nil calls)

/-- Operands that pass only add their calls. -/
theorem evalOperands_append {before : List Expr} (h : ∀ d ∈ before, c.Passes op d)
    (es : List Expr) : c.evalOperands op (before ++ es) =
      ⟨(c.evalOperands op es).outcome, c.callsOf before ++ (c.evalOperands op es).calls⟩ := by
  induction before with
  | nil => rfl
  | cons d before ih =>
    obtain ⟨hd, hbefore⟩ := List.forall_mem_cons.1 h
    rw [List.cons_append, evalOperands_of_passes hd, ih hbefore, callsOf_cons, List.append_assoc]

/-- All operands pass, or there is a first one that does not. -/
theorem passes_or_exists_first (c : Context) (op : Connective) (es : List Expr) :
    (∀ e ∈ es, c.Passes op e) ∨ ∃ before e after, es = before ++ e :: after ∧
      (∀ d ∈ before, c.Passes op d) ∧ ¬ c.Passes op e := by
  induction es with
  | nil => exact .inl (by simp)
  | cons d es ih =>
    by_cases hd : c.Passes op d
    · rcases ih with hall | ⟨before, e, after, rfl, hbefore, he⟩
      · exact .inl (List.forall_mem_cons.2 ⟨hd, hall⟩)
      · exact .inr ⟨d :: before, e, after, rfl, List.forall_mem_cons.2 ⟨hd, hbefore⟩, he⟩
    · exact .inr ⟨[], d, es, rfl, by simp, hd⟩

/-- If all operands of a chain pass, it has the truth value that they have.  Otherwise the first one
that does not pass settles it, and other operands could stand behind that one as well.  The calls
are those of the operands up to there. -/
theorem eval_logical_shortCircuit (c : Context) (op : Connective) (es : List Expr) :
    (∀ e ∈ es, c.Passes op e) ∧
        c.eval (.logical op es) = ⟨.ok (.boolean op.neutral), c.callsOf es⟩ ∨
      ∃ before e after, es = before ++ e :: after ∧ (∀ d ∈ before, c.Passes op d) ∧
        ¬ c.Passes op e ∧ ∀ after', c.eval (.logical op (before ++ e :: after')) =
          ⟨op.settle (c.eval e).outcome, c.callsOf (before ++ [e])⟩ := by
  rcases c.passes_or_exists_first op es with hall | ⟨before, e, after, rfl, hbefore, he⟩
  · refine .inl ⟨hall, ?_⟩
    have hrun := evalOperands_append hall []
    rw [List.append_nil, evalOperands] at hrun
    rw [eval, evalAs, hrun, op.neutral_eq_not_decisive]
    exact congrArg (Traced.mk _) (List.append_nil _)
  · refine .inr ⟨before, e, after, rfl, hbefore, he, fun after' => ?_⟩
    rw [eval, evalAs, evalOperands_append hbefore, evalOperands_of_not_passes he, callsOf, callsOf,
      List.flatMap_append, List.flatMap_singleton]

end Context

/-! ## Nested chains -/

namespace Expr

/-- The expression between some pairs of parentheses. -/
def grouped : Nat → Expr → Expr
  | 0, e => e
  | n + 1, e => .group (grouped n e)

mutual

/-- If the expression is a chain of the connective, be it between parentheses or not, its operands
without any nesting. -/
def innerOperands? (op : Connective) : Expr → Option (List Expr)
  | .group inner => innerOperands? op inner
  | .logical op' operands => if op' = op then some (unnested op operands) else none
  | _ => none

/-- The operands of a chain of the connective, with the operands of every chain among them in the
place of that chain. -/
def unnested (op : Connective) : List Expr → List Expr
  | [] => []
  | e :: es => (innerOperands? op e).getD [e] ++ unnested op es

end

variable (op : Connective)

/-- Operands are unnested one by one. -/
theorem unnested_append (es fs : List Expr) :
    unnested op (es ++ fs) = unnested op es ++ unnested op fs := by
  induction es with
  | nil => rfl
  | cons e es ih => rw [List.cons_append, unnested, unnested, ih, List.append_assoc]

/-- Parentheses around a chain do not change its operands. -/
theorem innerOperands?_grouped (n : Nat) (e : Expr) :
    innerOperands? op (grouped n e) = innerOperands? op e := by
  induction n with
  | zero => rfl
  | succ n ih => rw [grouped, innerOperands?, ih]

/-- The operands of a chain are unnested. -/
theorem innerOperands?_logical (es : List Expr) :
    innerOperands? op (.logical op es) = some (unnested op es) := by
  rw [innerOperands?, if_pos rfl]

/-- A chain at the front gives place to its operands. -/
theorem unnested_cons_logical (n : Nat) (es fs : List Expr) :
    unnested op (grouped n (.logical op es) :: fs) = unnested op (es ++ fs) := by
  rw [unnested, innerOperands?_grouped, innerOperands?_logical, unnested_append]
  rfl

/-- Operands that are added one by one at the end, each to the chain so far, which stands between
some parentheses. -/
def nestedLeft (first : List Expr) (more : List (Nat × Expr)) : Expr :=
  more.foldl (fun left e => .logical op [grouped e.1 left, e.2]) (.logical op first)

/-- Operands that are added one by one at the front, each to the chain behind it, which stands
between some parentheses. -/
def nestedRight (more : List (Nat × Expr)) (last : List Expr) : Expr :=
  more.foldr (fun e right => .logical op [e.2, grouped e.1 right]) (.logical op last)

/-- Chains give place to their operands, in their order. -/
theorem unnested_map_logical (gs : List (Nat × List Expr)) :
    unnested op (gs.map fun g => grouped g.1 (.logical op g.2)) =
      unnested op (gs.flatMap Prod.snd) := by
  induction gs with
  | nil => rfl
  | cons g gs ih =>
    rw [List.map_cons, unnested_cons_logical, List.flatMap_cons, unnested_append, unnested_append,
      ih]

/-- A chain nested to the left has the same operands as a flat one. -/
theorem innerOperands?_nestedLeft (first : List Expr) (more : List (Nat × Expr)) :
    innerOperands? op (nestedLeft op first more) =
      some (unnested op (first ++ more.map Prod.snd)) := by
  induction more generalizing first with
  | nil =>
    rw [List.map_nil, List.append_nil]
    exact innerOperands?_logical op first
  | cons e more ih =>
    -- the chain so far is the first operand of the next one
    have hnext := ih [grouped e.1 (.logical op first), e.2]
    rw [List.cons_append, unnested_cons_logical] at hnext
    exact hnext

/-- A chain nested to the right has the same operands as a flat one. -/
theorem innerOperands?_nestedRight (more : List (Nat × Expr)) (last : List Expr) :
    innerOperands? op (nestedRight op more last) =
      some (unnested op (more.map Prod.snd ++ last)) := by
  induction more with
  | nil => exact innerOperands?_logical op last
  | cons e more ih =>
    show innerOperands? op (.logical op [e.2, grouped e.1 (nestedRight op more last)]) = _
    rw [innerOperands?_logical, unnested, unnested, innerOperands?_grouped, ih, List.map_cons,
      List.cons_append, unnested, Option.getD_some, unnested, List.append_nil]

end Expr

namespace Context

variable (c : Context) (op : Connective)

/-- A chain for an operand is its operands in its place. -/
theorem evalOperands_logical_cons (es fs : List Expr) :
    c.evalOperands op (.logical op es :: fs) = c.evalOperands op (es ++ fs) := by
  rw [evalOperands_cons, evalAs]
  induction es with
  | nil =>
    rw [evalOperands]
    cases op <;> rfl
  | cons e es ih =>
    rw [evalOperands_cons, List.cons_append, evalOperands_cons, bind_assoc]
    congr 1
    funext v
    rw [bind_assoc]
    congr 1
    funext b
    by_cases hb : b = op.decisive
    · -- the inner chain is settled, and so is the outer one by its value
      rw [if_pos hb, if_pos hb, pure_bind]
      show (pure b >>= _) = _
      rw [pure_bind, if_pos hb]
    · rw [if_neg hb, if_neg hb]
      exact ih

variable {op}

/-- If each inner chain is evaluated as its operands are, the nesting does not matter. -/
theorem evalOperands_unnested_of_forall {es : List Expr}
    (h : ∀ e ∈ es, ∀ os, Expr.innerOperands? op e = some os →
      c.evalAs .itself e = c.evalOperands op os) :
    c.evalOperands op (Expr.unnested op es) = c.evalOperands op es := by
  induction es with
  | nil => rfl
  | cons e es ih =>
    obtain ⟨he, hes⟩ := List.forall_mem_cons.1 h
    rw [Expr.unnested]
    cases hinner : Expr.innerOperands? op e with
    | none =>
      rw [Option.getD_none, List.singleton_append, evalOperands_cons, evalOperands_cons, ih hes]
    | some os =>
      rw [Option.getD_some, ← evalOperands_logical_cons, evalOperands_cons, evalOperands_cons,
        evalAs, he os hinner, ih hes]

/-- A chain, be it between parentheses or not, comes to what its operands come to without any
nesting. -/
theorem evalAs_of_innerOperands? {e : Expr} {os : List Expr}
    (h : Expr.innerOperands? op e = some os) (role : Role) :
    c.evalAs role e = c.evalOperands op os := by
  induction e using Expr.induct generalizing os role with
  | group inner ih =>
    rw [evalAs_group]
    exact ih h role
  | logical op' es ih =>
    rw [Expr.innerOperands?] at h
    split at h
    · rename_i hop
      obtain rfl := hop
      obtain rfl := Option.some.inj h
      rw [evalAs, c.evalOperands_unnested_of_forall fun e he os hos => ih e he hos .itself]
    · cases h
  | _ => cases h

/-- All chains among the operands can be replaced by their operands. -/
theorem evalOperands_unnested (op : Connective) (es : List Expr) :
    c.evalOperands op (Expr.unnested op es) = c.evalOperands op es :=
  c.evalOperands_unnested_of_forall fun _ _ _ h => c.evalAs_of_innerOperands? h .itself

/-- A chain with the operands of a flat one is evaluated like it. -/
theorem eval_eq_eval_logical {e : Expr} {es : List Expr}
    (h : Expr.innerOperands? op e = some (Expr.unnested op es)) :
    c.eval e = c.eval (.logical op es) := by
  rw [eval, eval, c.evalAs_of_innerOperands? h, evalOperands_unnested, evalAs]

/-- Chains that are the operands of a chain of the same connective, each between parentheses or
not, make a chain of all their operands.  So do operands that are added one by one at either end. -/
theorem eval_logical_nested (c : Context) (op : Connective) :
    (∀ gs : List (Nat × List Expr),
      c.eval (.logical op (gs.map fun g => .grouped g.1 (.logical op g.2))) =
        c.eval (.logical op (gs.flatMap Prod.snd))) ∧
    ∀ (es : List Expr) (more : List (Nat × Expr)),
      c.eval (.nestedLeft op es more) = c.eval (.logical op (es ++ more.map Prod.snd)) ∧
        c.eval (.nestedRight op more es) = c.eval (.logical op (more.map Prod.snd ++ es)) := by
  constructor
  · intro gs
    refine c.eval_eq_eval_logical ?_
    rw [Expr.innerOperands?_logical, Expr.unnested_map_logical]
  · intro es more
    exact ⟨c.eval_eq_eval_logical (Expr.innerOperands?_nestedLeft op es more),
      c.eval_eq_eval_logical (Expr.innerOperands?_nestedRight op more es)⟩

end Context

end TemplateExpr
