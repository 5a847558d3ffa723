/-
# Causes of errors

An evaluation does not fail without a cause in the expression: a name without a binding that the
policy does not forgive in its place, an operation that does not suit its operands, a filter that
does not exist, or one that refuses its input.  Access to parts of values is no such cause.

Main statements:
* `ReadsAs`: the roles in which a name is read;
* `HasCause`: what stands behind an error;
* `caused_evalAs`: every error of an evaluation has its cause;
* `eval_error_has_cause`: the causes of each kind of error, and an expression without any of them.
-/
import TemplateExpr.Eval.Basic
import TemplateExpr.Proofs.Evaluation.Parts

namespace TemplateExpr

/-! ## What can fail -/

namespace Expr

/-- The parts of an expression that is evaluated in the given role, each with its own role. -/
@[simp] def partsAs (role : Role) : Expr → List (Role × Expr)
  | .literal _ => []
  | .var _ => []
  | .field object _ => [(.base, object)]
  | .index object place => [(.base, object), (.itself, place)]
  | .group inner => [(role, inner)]
  | .compare _ left right => [(.itself, left), (.itself, right)]
  | .logical _ operands => operands.map (Role.itself, ·)
  | .contains left right => [(.itself, left), (.itself, right)]
  | .filter input _ args => (.itself, input) :: args.map (Role.itself, ·)

/-- The parts are the same in every role. -/
theorem parts_eq_map_partsAs (role : Role) (e : Expr) : e.parts = (e.partsAs role).map Prod.snd := by
  cases e <;> simp [Function.comp_def]

/-- A part in some role is a part. -/
theorem mem_parts_of_mem_partsAs {role role' : Role} {d e : Expr}
    (h : (role', d) ∈ e.partsAs role) : d ∈ e.parts := by
  rw [parts_eq_map_partsAs role e]
  exact List.mem_map_of_mem (f := Prod.snd) h

/-- The name is read in the role `wanted` when the expression is evaluated in a role. -/
inductive ReadsAs (name : String) (wanted : Role) : Role → Expr → Prop
  | here : ReadsAs name wanted wanted (.var name)
  | part {role role' : Role} {d e : Expr} :
    (role', d) ∈ e.partsAs role → ReadsAs name wanted role' d → ReadsAs name wanted role e

/-- The name stands elsewhere than at the base of an access, be there parentheses between
or not. -/
def MentionsItself (e : Expr) (name : String) : Prop := e.ReadsAs name .itself .itself

/-- A name that is read is mentioned. -/
theorem ReadsAs.mentions {name : String} {wanted role : Role} {e : Expr}
    (h : e.ReadsAs name wanted role) : e.Mentions name := by
  induction h with
  | here => exact mentions_var name
  | part hd _ ih => exact ih.of_mem_parts (mem_parts_of_mem_partsAs hd)

/-- The operation stands in the expression and is one that does not suit all operands. -/
def Performs (e : Expr) : Operation → Prop
  | .compare op => op.asksEquality = false ∧ ∃ left right, .compare op left right ∈ e.nodes
  | .logical op => ∃ operands, .logical op operands ∈ e.nodes
  | .contains => ∃ left right, .contains left right ∈ e.nodes

/-- An operation that a part performs the whole performs. -/
theorem Performs.of_mem_parts {operation : Operation} {d e : Expr} (h : d.Performs operation)
    (hd : d ∈ e.parts) : e.Performs operation := by
  cases operation with
  | compare op =>
    obtain ⟨hop, l, r, h⟩ := h
    exact ⟨hop, l, r, mem_nodes_of_mem_parts hd h⟩
  | logical op =>
    obtain ⟨es, h⟩ := h
    exact ⟨es, mem_nodes_of_mem_parts hd h⟩
  | contains =>
    obtain ⟨l, r, h⟩ := h
    exact ⟨l, r, mem_nodes_of_mem_parts hd h⟩

/-- A comparison for an order performs its operation. -/
theorem performs_compare {op : Comparison} (hop : op.asksEquality = false) (left right : Expr) :
    (Expr.compare op left right).Performs (.compare op) :=
  ⟨hop, left, right, mem_nodes_self _⟩

/-- A chain of a connective performs its operation. -/
theorem performs_logical (op : Connective) (operands : List Expr) :
    (Expr.logical op operands).Performs (.logical op) :=
  ⟨operands, mem_nodes_self _⟩

/-- A containment performs its operation. -/
theorem performs_contains (left right : Expr) : (Expr.contains left right).Performs .contains :=
  ⟨left, right, mem_nodes_self _⟩

end Expr

/-! ## Causes -/

namespace EvaluationError

/-- The error has its cause in the expression, evaluated in the given role after which there were
the given calls: a refusal is what the last of them came to. -/
def HasCause (c : Context) (role : Role) (e : Expr) (calls : List Call) : EvaluationError → Prop
  | .unbound name =>
    c.get? name = none ∧ ∃ wanted, c.readsNil wanted = false ∧ e.ReadsAs name wanted role
  | .mismatch operation _ => e.Performs operation
  | .unknownFilter name => e.Applies name ∧ c.config.filter? name = none
  | .refused name source => e.Applies name ∧ ∃ call filter, calls.getLast? = some call ∧
      call.filter = name ∧ c.config.filter? name = some filter ∧
      filter call.input call.args = .error source

variable {c : Context} {role role' : Role} {d e : Expr} {calls : List Call}
  {err : EvaluationError}

/-- What stands in a part stands in the whole. -/
theorem HasCause.of_part (h : err.HasCause c role' d calls) (hd : (role', d) ∈ e.partsAs role) :
    err.HasCause c role e calls := by
  have hparts : d ∈ e.parts := Expr.mem_parts_of_mem_partsAs hd
  cases err with
  | unbound name =>
    obtain ⟨hget, wanted, hnil, hreads⟩ := h
    exact ⟨hget, wanted, hnil, .part hd hreads⟩
  | mismatch operation reason => exact Expr.Performs.of_mem_parts h hparts
  | unknownFilter name => exact ⟨h.1.of_mem_parts hparts, h.2⟩
  | refused name source => exact ⟨h.1.of_mem_parts hparts, h.2⟩

/-- Earlier calls leave the last one the last. -/
theorem HasCause.append (h : err.HasCause c role e calls) (before : List Call) :
    err.HasCause c role e (before ++ calls) := by
  cases err with
  | unbound name => exact h
  | mismatch operation reason => exact h
  | unknownFilter name => exact h
  | refused name source =>
    obtain ⟨happlies, call, filter, hlast, hcall⟩ := h
    exact ⟨happlies, call, filter, by rw [List.getLast?_append, hlast, Option.some_or], hcall⟩

end EvaluationError

/-! ## Errors of evaluations -/

namespace Eval

open EvaluationError

variable {α β : Type} {c : Context} {role role' : Role} {d e : Expr} {m : Eval α}

/-- An error of the evaluation has its cause in the expression. -/
def Caused (c : Context) (role : Role) (e : Expr) (m : Eval α) : Prop :=
  ∀ err, m.outcome = .error err → err.HasCause c role e m.calls

/-- A value needs no cause. -/
theorem caused_pure (a : α) : Caused c role e (pure a) := by
  intro err h
  cases h

/-- What has a cause in a part has one in the whole. -/
theorem Caused.of_part (h : Caused c role' d m) (hd : (role', d) ∈ e.partsAs role) :
    Caused c role e m :=
  fun err herr => (h err herr).of_part hd

/-- Two steps with causes are one with a cause. -/
theorem Caused.bind {f : α → Eval β} (hm : Caused c role e m)
    (hf : ∀ a, Caused c role e (f a)) : Caused c role e (m >>= f) := by
  obtain ⟨outcome, calls⟩ := m
  intro err h
  cases outcome with
  | ok a =>
    rw [Traced.bind_ok] at h ⊢
    exact (hf a err h).append calls
  | error err' =>
    cases h
    exact hm err rfl

/-! ### Steps that fail by themselves -/

/-- An error for a name is caused by the variable with this name. -/
theorem caused_name (c : Context) (role : Role) (name : String) :
    Caused c role (.var name) (.ofExcept (c.lookup role name)) := by
  intro err h
  simp only [Traced.ofExcept, Context.lookup] at h
  split at h
  · cases h
  · rename_i hget
    split at h
    · cases h
    · rename_i hnil
      cases h
      exact ⟨hget, role, by simpa using hnil, .here⟩

/-- An error of a comparison is caused by that comparison. -/
theorem caused_compareWith (op : Comparison) (l r : Expr) (v w : Value) :
    Caused c role (.compare op l r) (.ofExcept (v.compareWith op w)) := by
  intro err h
  cases op with
  | equal | notEqual => cases h
  | less | greater | lessEqual | greaterEqual =>
    simp only [Traced.ofExcept, Value.compareWith] at h
    split at h
    · cases h
    · cases h
      exact Expr.performs_compare rfl l r

/-- An error of a containment is caused by that containment. -/
theorem caused_containsValue (l r : Expr) (v w : Value) :
    Caused c role (.contains l r) (.ofExcept (v.containsValue w)) := by
  intro err h
  simp only [Traced.ofExcept] at h
  unfold Value.containsValue at h
  split at h
  · cases h
  · cases h
    exact Expr.performs_contains l r
  · cases h
  · cases h
    exact Expr.performs_contains l r

/-- An operand that is no truth value is an error of its connective. -/
theorem caused_truth (op : Connective) (es : List Expr) (v : Value) :
    Caused c role (.logical op es) (.ofExcept (v.truth op)) := by
  intro err h
  cases v with
  | boolean b => cases h
  | _ =>
    cases h
    exact Expr.performs_logical op es

/-- The error for an unknown filter is caused by its application. -/
theorem caused_unknownFilter {name : String} (h : c.config.filter? name = none) (input : Expr)
    (args : List Expr) :
    Caused c role (.filter input name args) (.fail (.unknownFilter name) : Eval Value) := by
  intro err herr
  cases herr
  exact ⟨Expr.applies_filter input name args, h⟩

/-- An error of a filter is caused by its application. -/
theorem caused_callFilter {name : String} {filter : Filter}
    (h : c.config.filter? name = some filter) (input : Expr) (args : List Expr) (v : Value)
    (vs : List Value) : Caused c role (.filter input name args) (callFilter name filter v vs) := by
  intro err herr
  simp only [callFilter] at herr ⊢
  cases hf : filter v vs with
  | ok w =>
    rw [hf] at herr
    cases herr
  | error source =>
    rw [hf] at herr
    cases herr
    exact ⟨Expr.applies_filter input name args, _, filter, rfl, rfl, h, hf⟩

end Eval

namespace Context

open Eval

variable {c : Context} {role : Role}

/-! ### Lists of expressions -/

/-- The errors of the operands have causes if those of each operand have. -/
theorem caused_evalOperands {op : Connective} {operands es : List Expr}
    (h : ∀ d ∈ es, Caused c role (.logical op operands) (c.evalAs .itself d)) :
    Caused c role (.logical op operands) (c.evalOperands op es) := by
  induction es with
  | nil =>
    rw [evalOperands]
    exact caused_pure _
  | cons d ds ih =>
    rw [evalOperands_cons]
    refine (h d List.mem_cons_self).bind fun v => (caused_truth op operands v).bind fun b => ?_
    split
    · exact caused_pure _
    · exact ih fun d' hd' => h d' (List.mem_cons_of_mem d hd')

/-- The errors of the arguments have causes if those of each argument have. -/
theorem caused_evalArgs {e : Expr} {es : List Expr}
    (h : ∀ d ∈ es, Caused c role e (c.evalAs .itself d)) :
    Caused c role e (c.evalArgs es) := by
  induction es with
  | nil =>
    rw [evalArgs]
    exact caused_pure _
  | cons d ds ih =>
    rw [evalArgs]
    refine (h d List.mem_cons_self).bind fun v => ?_
    exact (ih fun d' hd' => h d' (List.mem_cons_of_mem d hd')).bind fun vs => caused_pure _

/-! ### Expressions -/

/-- Every error of an evaluation has its cause in the expression. -/
theorem caused_evalAs (c : Context) (role : Role) (e : Expr) :
    Caused c role e (c.evalAs role e) := by
  induction e using Expr.inductParts generalizing role with
  | whole e ih =>
    have hpart : ∀ role' d, (role', d) ∈ e.partsAs role →
        Caused c role e (c.evalAs role' d) := fun role' d hd =>
      (ih d (Expr.mem_parts_of_mem_partsAs hd) role').of_part hd
    cases e with
    | literal v =>
      rw [evalAs]
      exact caused_pure v
    | var name =>
      rw [evalAs]
      exact caused_name c role name
    | field object name =>
      rw [evalAs]
      exact (hpart .base object (by simp)).bind fun base => caused_pure _
    | index object place =>
      rw [evalAs]
      refine (hpart .base object (by simp)).bind fun base => ?_
      exact (hpart .itself place (by simp)).bind fun i => caused_pure _
    | group inner =>
      rw [evalAs_group]
      exact hpart role inner (by simp)
    | compare op l r =>
      rw [evalAs]
      refine (hpart .itself l (by simp)).bind fun v => (hpart .itself r (by simp)).bind fun w => ?_
      exact (caused_compareWith op l r v w).bind fun b => caused_pure _
    | logical op es =>
      rw [evalAs]
      exact caused_evalOperands fun d hd => hpart .itself d (by simpa using hd)
    | contains l r =>
      rw [evalAs]
      refine (hpart .itself l (by simp)).bind fun v => (hpart .itself r (by simp)).bind fun w => ?_
      exact (caused_containsValue l r v w).bind fun b => caused_pure _
    | filter input name args =>
      have hargs := caused_evalArgs fun d hd => hpart .itself d (by simpa using .inr hd)
      rw [evalAs]
      refine (hpart .itself input (by simp)).bind fun v => ?_
      cases hfilter : c.config.filter? name with
      | none => exact caused_unknownFilter hfilter input args
      | some filter => exact hargs.bind fun vs => caused_callFilter hfilter input args v vs

/-! ## Causes by kind -/

/-- A name is not read as nil if all unbound names are errors, or if it stands by itself under the
strict policy. -/
theorem readsNil_eq_false_iff (c : Context) (role : Role) :
    c.readsNil role = false ↔
      c.config.unbound = .error ∨ c.config.unbound = .strict ∧ role = .itself := by
  unfold readsNil
  cases c.config.unbound <;> cases role <;> simp

/-- An evaluation fails on a name only if the name stands in the expression, has no binding and is
not forgiven; on a filter only if the expression applies it and it does not exist; by a refusal
only if the last call was refused so; and by a mismatch only if the operation stands in the
expression.  What has no such cause has a value. -/
theorem eval_error_has_cause (c : Context) (e : Expr) :
    (∀ name, (c.eval e).outcome = .error (.unbound name) →
      e.Mentions name ∧ c.get? name = none ∧ c.config.unbound ≠ .lenient ∧
        (c.config.unbound = .strict → e.MentionsItself name)) ∧
    (∀ name, (c.eval e).outcome = .error (.unknownFilter name) →
      e.Applies name ∧ c.config.isRegistered name = false) ∧
    (∀ name source, (c.eval e).outcome = .error (.refused name source) →
      ∃ call filter, (c.eval e).calls.getLast? = some call ∧ call.filter = name ∧
        c.config.filter? name = some filter ∧ filter call.input call.args = .error source) ∧
    (∀ operation reason, (c.eval e).outcome = .error (.mismatch operation reason) →
      e.Performs operation) ∧
    ((c.config.unbound = .lenient ∨ ∀ name, e.Mentions name → c.contains name = true) →
      (∀ name, e.Applies name → ∃ filter, c.config.filter? name = some filter ∧
        ∀ input args, ∃ v, filter input args = .ok v) →
      (∀ operation, ¬ e.Performs operation) →
      ∃ v, (c.eval e).outcome = .ok v) := by
  have hcause : ∀ err, (c.eval e).outcome = .error err →
      err.HasCause c .itself e (c.eval e).calls := caused_evalAs c .itself e
  refine ⟨?name, ?unknown, ?refused, ?mismatch, ?value⟩
  case name =>
    intro name h
    obtain ⟨hget, wanted, hnil, hreads⟩ := hcause _ h
    rw [readsNil_eq_false_iff] at hnil
    refine ⟨hreads.mentions, hget, ?_, fun hstrict => ?_⟩
    · rcases hnil with herror | ⟨hstrict, -⟩ <;> simp [*]
    · rcases hnil with herror | ⟨-, rfl⟩
      · simp [hstrict] at herror
      · exact hreads
  case unknown =>
    intro name h
    obtain ⟨happlies, hfilter⟩ := hcause _ h
    exact ⟨happlies, by rw [Config.isRegistered_eq_isSome, hfilter, Option.isSome_none]⟩
  case refused => exact fun name source h => (hcause _ h).2
  case mismatch => exact fun operation reason h => hcause _ h
  case value =>
    intro hnames hfilters hoperations
    cases h : (c.eval e).outcome with
    | ok v => exact ⟨v, rfl⟩
    | error err =>
      exfalso
      cases err with
      | unbound name =>
        obtain ⟨hget, wanted, hnil, hreads⟩ := hcause _ h
        rw [readsNil_eq_false_iff] at hnil
        rcases hnames with hlenient | hnames
        · simp [hlenient] at hnil
        · have hcontains := hnames name hreads.mentions
          simp [contains_eq_isSome, hget] at hcontains
      | mismatch operation reason => exact hoperations operation (hcause _ h)
      | unknownFilter name =>
        obtain ⟨happlies, hfilter⟩ := hcause _ h
        obtain ⟨filter, hfilter', -⟩ := hfilters name happlies
        simp [hfilter] at hfilter'
      | refused name source =>
        obtain ⟨happlies, call, filter, -, -, hfilter, hrefused⟩ := hcause _ h
        obtain ⟨filter', hfilter', hok⟩ := hfilters name happlies
        obtain rfl : filter = filter' := by simpa [hfilter] using hfilter'
        obtain ⟨v, hv⟩ := hok call.input call.args
        simp [hrefused] at hv

/-- A name beside an access to it, a filter that does not exist, a refusal of what another filter
has given, an operand without a truth value, and an expression that has none of these causes. -/
theorem eval_error_has_cause_each :
    (((empty .new).eval (.compare .equal (.field (.var "a") "b") (.group (.var "a")))).outcome =
        .error (.unbound "a") ∧
      (Expr.compare .equal (.field (.var "a") "b") (.group (.var "a"))).MentionsItself "a") ∧
    (((empty .new).eval (.filter (.literal .nil) "f" [.var "a"])).outcome =
        .error (.unknownFilter "f") ∧
      Config.new.isRegistered "f" = false) ∧
    (((empty ((Config.new.register "f" fun v _ => .ok v).register "g" fun _ _ =>
          .error ⟨"no"⟩)).eval (.filter (.filter (.literal .nil) "f" []) "g" [])).outcome =
        .error (.refused "g" ⟨"no"⟩) ∧
      ∃ call, ((empty ((Config.new.register "f" fun v _ => .ok v).register "g" fun _ _ =>
          .error ⟨"no"⟩)).eval (.filter (.filter (.literal .nil) "f" []) "g" [])).calls.getLast? =
        some call ∧ call.filter = "g") ∧
    (((empty .new).eval (.group (.logical .or [.literal .nil]))).outcome =
        .error (.mismatch (.logical .or) (.wrongKind .boolean .nil)) ∧
      (Expr.group (.logical .or [.literal .nil])).Performs (.logical .or)) ∧
    ∃ v, (((empty (Config.new.register "f" fun v _ => .ok v)).bind "a" .nil).eval
      (.index (.filter (.var "a") "f" []) (.var "a"))).outcome = .ok v := by
  refine ⟨⟨?name, ((eval_error_has_cause _ _).1 "a" ?name).2.2.2 rfl⟩,
    ⟨?unknown, ((eval_error_has_cause _ _).2.1 "f" ?unknown).2⟩,
    ⟨?refused, ((eval_error_has_cause _ _).2.2.1 "g" _ ?refused).imp
      fun call ⟨_, hlast, hname, _⟩ => ⟨hlast, hname⟩⟩,
    ⟨?mismatch, (eval_error_has_cause _ _).2.2.2.1 _ _ ?mismatch⟩, ?value⟩
  case name | unknown | refused | mismatch => rfl
  case value =>
    refine (eval_error_has_cause _ _).2.2.2.2 (.inr fun name hname => ?_) (fun name hname => ?_)
      (fun operation h => ?_)
    · obtain rfl : name = "a" := by simpa [Expr.Mentions, Expr.nodes, Expr.nodesOfAll] using hname
      rw [contains_eq_isSome, get?_bind, if_pos rfl, Option.isSome_some]
    · obtain rfl : name = "f" := by
        simpa [Expr.Applies, Expr.nodes, Expr.nodesOfAll, eq_comm] using hname
      exact ⟨fun v _ => .ok v, by simp [bind, empty, Config.filter?_register], fun v _ => ⟨v, rfl⟩⟩
    · cases operation <;> simp [Expr.Performs, Expr.nodes, Expr.nodesOfAll] at h

end Context

end TemplateExpr
