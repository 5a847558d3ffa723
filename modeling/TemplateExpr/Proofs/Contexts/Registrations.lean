/-
# Registrations

A host makes changes to a new configuration, in any order and as often as it likes: it registers a
filter under a name, which may have one already, or it sets the policy.  Of all that it has done
the configuration tells, for every name, which filter was registered last, and which policy was set
last.  Expressions are told no more, so they cannot tell apart two histories that agree in that.

Main statements:
* `records_iff`: the filters of single names and the policy decide what a configuration tells;
* `Records.change`: one more change;
* `ofChanges_records`: any number of changes to a new configuration, and the expressions under it.
-/
import Mathlib.Data.List.Induction
import TemplateExpr.Proofs.Evaluation.Substitution
import TemplateExpr.Proofs.Text.CodePoints

namespace TemplateExpr

/-! ## Changes -/

/-- What a host does to a configuration. -/
inductive Change where
  /-- A filter is registered under a name. -/
  | register (name : String) (f : Filter)
  /-- The policy for names without a binding is set. -/
  | setPolicy (policy : UnboundPolicy)

namespace Change

/-- The filter that is registered under the given name, if one is. -/
def filter? (name : String) : Change → Option Filter
  | .register n f => if n = name then some f else none
  | .setPolicy _ => none

/-- The policy that is set, if one is. -/
def policy? : Change → Option UnboundPolicy
  | .register _ _ => none
  | .setPolicy policy => some policy

theorem filter?_eq_some_iff {name : String} {f : Filter} {d : Change} :
    d.filter? name = some f ↔ d = .register name f := by
  cases d with
  | register n g =>
    by_cases h : n = name
    · simp [filter?, h]
    · simp [filter?, h]
  | setPolicy policy => simp [filter?]

end Change

/-- The filter that was registered last under the name. -/
def lastFilter? (changes : List Change) (name : String) : Option Filter :=
  (changes.filterMap (Change.filter? name)).getLast?

/-- The policy that was set last, or the strict one if none was set. -/
def lastPolicy (changes : List Change) : UnboundPolicy :=
  (changes.filterMap Change.policy?).getLastD .strict

variable {changes : List Change} {name : String}

theorem lastFilter?_concat (changes : List Change) (d : Change) (name : String) :
    lastFilter? (changes ++ [d]) name = (d.filter? name).or (lastFilter? changes name) := by
  rw [lastFilter?, List.filterMap_append, List.getLast?_append, List.filterMap_cons,
    List.filterMap_nil]
  cases d.filter? name <;> rfl

theorem lastPolicy_concat (changes : List Change) (d : Change) :
    lastPolicy (changes ++ [d]) = d.policy?.getD (lastPolicy changes) := by
  rw [lastPolicy, lastPolicy, List.filterMap_append, List.filterMap_cons, List.filterMap_nil]
  cases d.policy? <;> simp

/-- A name has a last filter if it was ever given one. -/
theorem isSome_lastFilter?_iff :
    (lastFilter? changes name).isSome = true ↔ ∃ f, .register name f ∈ changes := by
  rw [lastFilter?, List.getLast?_isSome]
  constructor
  · intro h
    obtain ⟨f, hf⟩ := List.exists_mem_of_ne_nil _ h
    obtain ⟨d, hd, hdf⟩ := List.mem_filterMap.1 hf
    obtain rfl := Change.filter?_eq_some_iff.1 hdf
    exact ⟨f, hd⟩
  · rintro ⟨f, hf⟩
    apply List.ne_nil_of_mem
    exact List.mem_filterMap.2 ⟨_, hf, Change.filter?_eq_some_iff.2 rfl⟩

namespace Config

/-! ## What a configuration tells -/

/-- The configuration tells what was done to it: the names in the order of their code points, and
the last filter of each. -/
structure Records (c : Config) (changes : List Change) : Prop where
  ascending : (c.registered.map Text.codePoints).Pairwise (· < ·)
  mem_registered_iff : ∀ name, name ∈ c.registered ↔ ∃ f, .register name f ∈ changes
  isRegistered_iff : ∀ name, c.isRegistered name = true ↔ name ∈ c.registered
  isSome_filter?_iff : ∀ name, (c.filter? name).isSome = true ↔ name ∈ c.registered
  filter?_eq : ∀ name, c.filter? name = lastFilter? changes name
  unbound_eq : c.unbound = lastPolicy changes

theorem ascending_registered (c : Config) :
    (c.registered.map Text.codePoints).Pairwise (· < ·) := by
  rw [List.pairwise_map]
  exact Std.TreeMap.ordered_keys.imp fun h => Text.codePoints_lt_iff.2 (lt_of_compare h)

/-- The filters of single names and the policy decide what a configuration tells. -/
theorem records_iff {c : Config} : c.Records changes ↔
    (∀ name, c.filter? name = lastFilter? changes name) ∧ c.unbound = lastPolicy changes := by
  constructor
  · intro h
    exact ⟨h.filter?_eq, h.unbound_eq⟩
  · rintro ⟨hfilter, hpolicy⟩
    have hsome : ∀ name, (c.filter? name).isSome = true ↔ name ∈ c.registered := by
      intro name
      rw [c.mem_registered_iff, isRegistered_eq_isSome]
    refine ⟨c.ascending_registered, fun name => ?_, fun name => ?_, hsome, hfilter, hpolicy⟩
    · rw [← hsome, hfilter, isSome_lastFilter?_iff]
    · rw [c.mem_registered_iff]

/-! ## Histories -/

/-- The configuration after a change. -/
def change (c : Config) : Change → Config
  | .register name f => c.register name f
  | .setPolicy policy => c.withPolicy policy

/-- The configuration that some changes make of a new one, the first change first. -/
def ofChanges (changes : List Change) : Config := changes.foldl change .new

theorem records_new : new.Records [] := records_iff.2 ⟨filter?_new, rfl⟩

/-- One more change is the last one of its kind. -/
theorem Records.change {c : Config} (h : c.Records changes) (d : Change) :
    (c.change d).Records (changes ++ [d]) := by
  rw [records_iff] at h ⊢
  obtain ⟨hfilter, hpolicy⟩ := h
  constructor
  · intro name
    rw [lastFilter?_concat, ← hfilter]
    cases d with
    | register n f =>
      show (c.register n f).filter? name = (if n = name then some f else none).or (c.filter? name)
      rw [filter?_register]
      by_cases hn : n = name
      · rw [if_pos hn, if_pos hn, Option.some_or]
      · rw [if_neg hn, if_neg hn, Option.none_or]
    | setPolicy policy => rfl
  · rw [lastPolicy_concat, ← hpolicy]
    cases d <;> rfl

/-- Whatever was done to a new configuration, it tells so. -/
theorem records_ofChanges (changes : List Change) : (ofChanges changes).Records changes := by
  induction changes using List.reverseRecOn with
  | nil => exact records_new
  | append_singleton changes d ih =>
    rw [ofChanges, List.foldl_concat]
    exact ih.change d

end Config

/-! ## Expressions -/

namespace Context

/-- The context under another configuration. -/
def under (c : Context) (config : Config) : Context := { c with config := config }

/-- An expression sees of its configuration the filters of single names and the policy. -/
theorem eval_under_congr {config config' : Config}
    (hfilter : ∀ name, config.filter? name = config'.filter? name)
    (hpolicy : config.unbound = config'.unbound) (c : Context) (e : Expr) :
    (c.under config).eval e = (c.under config').eval e := by
  show (c.under config).evalAs .itself e = (c.under config').evalAs .itself e
  apply stepwise_eq.evalAs_congr hfilter
  intro role name
  exact evalAs_var_congr role hpolicy rfl

end Context

namespace Config

/-- After any history a new configuration lists, in ascending order, the names that were registered
and no others, and gives each its last filter.  Histories with the same last filter for every name
and the same last policy are the same to every expression in every context: it has the same value or
error after the same calls of filters. -/
theorem ofChanges_records (changes : List Change) :
    (ofChanges changes).Records changes ∧
    ∀ changes' : List Change, (∀ name, lastFilter? changes name = lastFilter? changes' name) →
      lastPolicy changes = lastPolicy changes' → ∀ (c : Context) (e : Expr),
        (c.under (ofChanges changes)).eval e = (c.under (ofChanges changes')).eval e := by
  have h := records_ofChanges changes
  refine ⟨h, fun changes' hfilter hpolicy c e => ?_⟩
  have h' := records_ofChanges changes'
  apply Context.eval_under_congr
  · intro name
    rw [h.filter?_eq, h'.filter?_eq, hfilter]
  · rw [h.unbound_eq, h'.unbound_eq, hpolicy]

/-- A filter that another one has replaced, the order of two names and a policy that was set and
changed again make no difference. -/
theorem ofChanges_records_replaced : ∃ changes changes' : List Change,
    changes = [.register "up" fun _ _ => .ok .nil, .setPolicy .lenient,
      .register "id" fun v _ => .ok v, .register "up" fun _ _ => .error ⟨"no"⟩] ∧
    changes' = [.register "up" fun _ _ => .error ⟨"no"⟩, .setPolicy .error,
      .register "id" fun v _ => .ok v, .setPolicy .lenient] ∧
    (ofChanges changes).Records changes ∧
    (∀ name, lastFilter? changes name = lastFilter? changes' name) ∧
    lastPolicy changes = lastPolicy changes' ∧
    ((Context.empty .new).under (ofChanges changes)).eval (.filter (.var "x") "up" []) =
      ((Context.empty .new).under (ofChanges changes')).eval (.filter (.var "x") "up" []) := by
  refine ⟨_, _, rfl, rfl, ?_⟩
  have hfilter : ∀ name, lastFilter? [.register "up" fun _ _ => .ok .nil, .setPolicy .lenient,
      .register "id" fun v _ => .ok v, .register "up" fun _ _ => .error ⟨"no"⟩] name =
      lastFilter? [.register "up" fun _ _ => .error ⟨"no"⟩, .setPolicy .error,
        .register "id" fun v _ => .ok v, .setPolicy .lenient] name := by
    intro name
    by_cases hup : "up" = name
    · subst hup
      rfl
    · -- only the registration under the other name is left
      simp only [lastFilter?, List.filterMap_cons, Change.filter?, if_neg hup]
  obtain ⟨hrecords, hsame⟩ := ofChanges_records [.register "up" fun _ _ => .ok .nil,
    .setPolicy .lenient, .register "id" fun v _ => .ok v,
    .register "up" fun _ _ => .error ⟨"no"⟩]
  exact ⟨hrecords, hfilter, rfl, hsame _ hfilter rfl (Context.empty .new) _⟩

end Config

end TemplateExpr
