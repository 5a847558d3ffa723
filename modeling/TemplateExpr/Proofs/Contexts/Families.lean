/-
# Families of contexts

From one context others are derived by binding names, and others again from these, of contexts or
of closures over them.  Together they are a tree, and each of them tells what was given to the names
on the way from the root to it: of several values of a name the last one.  What is derived beside or
after it makes no difference.

Main statements:
* `lookup_reverse_eq_some_iff`: looking from the end finds what was given last;
* `records_iff`: the values of single names decide what a context tells;
* `Same.of_get?`: contexts with the same values and configuration cannot be told apart;
* `family_records`: all contexts of a family, and binding two names in either order.
-/
import Mathlib.Data.List.Dedup
import TemplateExpr.Eval.Source
import TemplateExpr.Proofs.Evaluation.Dependence

namespace TemplateExpr

/-! ## Values given to names -/

/-- Of the values that were given to the name this is the last one. -/
def LastGiven (given : List (String × Value)) (name : String) (value : Value) : Prop :=
  ∃ before behind, given = before ++ (name, value) :: behind ∧ ∀ v, (name, v) ∉ behind

variable {given : List (String × Value)} {name : String} {value : Value}

/-- No entry is for the name exactly if the name was given no value. -/
theorem forall_bne_iff {l : List (String × Value)} :
    (∀ q ∈ l, (name != q.1) = true) ↔ ∀ v, (name, v) ∉ l := by
  simp only [bne_iff_ne, Prod.forall]
  constructor
  · intro h v hv
    exact h name v hv rfl
  · rintro h n v hv rfl
    exact h v hv

/-- The last value of a name is the first one from the end. -/
theorem lookup_reverse_eq_some_iff :
    given.reverse.lookup name = some value ↔ LastGiven given name value := by
  rw [List.lookup_eq_some_iff]
  constructor
  · rintro ⟨behind, before, hgiven, hbehind⟩
    refine ⟨before.reverse, behind.reverse, ?_, fun v hv => ?_⟩
    · simpa using congrArg List.reverse hgiven
    · exact forall_bne_iff.1 hbehind v (List.mem_reverse.1 hv)
  · rintro ⟨before, behind, rfl, hbehind⟩
    refine ⟨behind.reverse, before.reverse, by simp, forall_bne_iff.2 fun v hv => ?_⟩
    exact hbehind v (List.mem_reverse.1 hv)

/-- Nothing is found under a name exactly if it was given no value. -/
theorem lookup_reverse_eq_none_iff :
    given.reverse.lookup name = none ↔ ∀ v, (name, v) ∉ given := by
  rw [List.lookup_eq_none_iff, forall_bne_iff]
  simp only [List.mem_reverse]

/-- One more value at the end answers for its own name. -/
theorem lookup_reverse_concat (given : List (String × Value)) (name : String) (value : Value)
    (n : String) : (given ++ [(name, value)]).reverse.lookup n =
      if name = n then some value else given.reverse.lookup n := by
  rw [List.reverse_append, List.reverse_singleton, List.singleton_append,
    Fields.lookup_cons_eq_ite]
  simp only [eq_comm]

/-! ## Finite maps -/

namespace Fields

variable {α : Type}

/-- A map is known by the values of single names. -/
theorem ext_find? {f g : Fields α} (h : ∀ name, f.find? name = g.find? name) : f = g := by
  apply ext_toList
  have hnodup : ∀ f : Fields α, f.toList.Nodup := fun f =>
    List.Nodup.of_map Prod.fst (by rw [keys_toList]; exact f.nodup_keys)
  have hascending : ∀ f : Fields α, f.toList.Pairwise fun p q => p.1 < q.1 := fun f =>
    List.pairwise_map.1 f.ascending_toList
  have hperm : f.toList.Perm g.toList := by
    rw [List.perm_ext_iff_of_nodup (hnodup f) (hnodup g)]
    rintro ⟨name, value⟩
    rw [← find?_eq_some_iff, ← find?_eq_some_iff, h]
  refine hperm.eq_of_pairwise ?_ (hascending f) (hascending g)
  intro p q _ _ hpq hqp
  exact absurd (String.lt_trans hpq hqp) (String.lt_irrefl _)

end Fields

namespace Context

/-! ## What a context tells -/

/-- The context tells what was given to names: of each name the last value. -/
structure Records (c : Context) (given : List (String × Value)) : Prop where
  get?_eq_some_iff : ∀ name value, c.get? name = some value ↔ LastGiven given name value
  get?_eq_none_iff : ∀ name, c.get? name = none ↔ ∀ value, (name, value) ∉ given
  contains_eq : ∀ name, c.contains name = (c.get? name).isSome
  /-- Names that were given several values count once. -/
  size_eq : c.size = (given.map Prod.fst).dedup.length
  isEmpty_iff : c.isEmpty = true ↔ c.size = 0
  mem_bindings_iff : ∀ name value, (name, value) ∈ c.bindings.toList ↔ LastGiven given name value

/-- The values of single names decide what a context tells. -/
theorem records_iff {c : Context} :
    c.Records given ↔ ∀ name, c.get? name = given.reverse.lookup name := by
  constructor
  · intro h name
    ext value
    rw [h.get?_eq_some_iff, lookup_reverse_eq_some_iff]
  · intro h
    have hsome : ∀ name value, c.get? name = some value ↔ LastGiven given name value := by
      intro name value
      rw [h, lookup_reverse_eq_some_iff]
    refine ⟨hsome, fun name => by rw [h, lookup_reverse_eq_none_iff], c.contains_eq_isSome, ?_, ?_,
      fun name value => ?_⟩
    · -- both are the number of the names that have a value
      rw [← size_bindings]
      refine (List.Perm.length_eq ?_)
      rw [List.perm_ext_iff_of_nodup c.bindings.nodup_keys (List.nodup_dedup _)]
      intro name
      rw [Fields.mem_keys_iff, find?_bindings, h, ne_eq, lookup_reverse_eq_none_iff, List.mem_dedup]
      simp
    · rw [isEmpty, size, Std.TreeMap.isEmpty_eq_size_eq_zero, beq_iff_eq]
    · rw [← Fields.find?_eq_some_iff, find?_bindings, hsome]

/-- A context tells the bindings that it was made of. -/
theorem records_ofBindings (bindings : List (String × Value)) (config : Config) :
    (ofBindings bindings config).Records bindings :=
  records_iff.2 (get?_ofBindings bindings config)

/-- One more binding is one more value that was given. -/
theorem Records.bind {c : Context} (h : c.Records given) (name : String) (value : Value) :
    (c.bind name value).Records (given ++ [(name, value)]) := by
  rw [records_iff] at h ⊢
  intro n
  rw [get?_bind, lookup_reverse_concat, h]

/-! ## Contexts that cannot be told apart -/

/-- The contexts answer everything in the same way. -/
structure Same (c d : Context) : Prop where
  get?_eq : ∀ name, c.get? name = d.get? name
  contains_eq : ∀ name, c.contains name = d.contains name
  size_eq : c.size = d.size
  isEmpty_eq : c.isEmpty = d.isEmpty
  bindings_eq : c.bindings = d.bindings
  config_eq : c.config = d.config
  eval_eq : ∀ e, c.eval e = d.eval e

/-- It is enough that single names have the same values, under one configuration. -/
theorem Same.of_get? {c d : Context} (h : ∀ name, c.get? name = d.get? name)
    (hconfig : c.config = d.config) : c.Same d := by
  have hbindings : c.bindings = d.bindings :=
    Fields.ext_find? fun name => by rw [find?_bindings, find?_bindings, h]
  have hsize : c.size = d.size := by rw [← size_bindings, ← size_bindings, hbindings]
  refine ⟨h, fun name => ?_, hsize, ?_, hbindings, hconfig, fun e => ?_⟩
  · rw [contains_eq_isSome, contains_eq_isSome, h]
  · rw [isEmpty, isEmpty, Std.TreeMap.isEmpty_eq_size_eq_zero, Std.TreeMap.isEmpty_eq_size_eq_zero]
    rw [show c.values.size = d.values.size from hsize]
  · exact stepwise_eq.evalAs_congr (fun name => by rw [hconfig])
      (fun role name => evalAs_var_congr role (by rw [hconfig]) (h name)) .itself e

/-! ## Derivations -/

/-- How a context is derived from another one: a name is bound, of the context itself or of a
closure of some expression over it. -/
structure Derivation where
  /-- The context that it starts from, counted in the order in which the contexts come to be. -/
  origin : Nat
  /-- The expression of the closure. -/
  body : Option Expr
  name : String
  value : Value

/-- The context that is derived. -/
def derive (c : Context) (d : Derivation) : Context :=
  match d.body with
  | none => c.bind d.name d.value
  | some e => (Closure.bind ⟨e, c⟩ d.name d.value).context

/-- Binding a name of a closure is binding it in the context. -/
theorem derive_eq_bind (c : Context) (d : Derivation) : c.derive d = c.bind d.name d.value := by
  unfold derive
  split <;> rfl

/-- The context at the end of some derivations, each from the one before. -/
def deriveAll (c : Context) (ds : List Derivation) : Context := ds.foldl derive c

/-- A derived context differs from the one before at the name that is bound. -/
theorem get?_derive (c : Context) (d : Derivation) (n : String) :
    (c.derive d).get? n = if d.name = n then some d.value else c.get? n := by
  rw [derive_eq_bind, get?_bind]

/-- A derived context has the configuration of the one before. -/
theorem config_derive (c : Context) (d : Derivation) : (c.derive d).config = c.config := by
  rw [derive_eq_bind, config_bind]

/-- Contexts that cannot be told apart stay so if they are derived in the same way. -/
theorem Same.derive {c c' : Context} (h : c.Same c') (d : Derivation) :
    (c.derive d).Same (c'.derive d) := by
  refine .of_get? (fun n => ?_) ?_
  · rw [get?_derive, get?_derive, h.get?_eq]
  · rw [config_derive, config_derive, h.config_eq]

/-- Contexts that cannot be told apart stay so under the same derivations. -/
theorem Same.deriveAll {c c' : Context} (h : c.Same c') (ds : List Derivation) :
    (c.deriveAll ds).Same (c'.deriveAll ds) := by
  induction ds generalizing c c' with
  | nil => exact h
  | cons d ds ih => exact ih (h.derive d)

/-- Two names are bound in either order. -/
theorem same_derive_derive (c : Context) {d d' : Derivation} (h : d.name ≠ d'.name) :
    ((c.derive d).derive d').Same ((c.derive d').derive d) := by
  refine .of_get? (fun n => ?_) ?_
  · simp only [get?_derive]
    by_cases hd : d.name = n
    · rw [if_pos hd, if_pos hd, if_neg fun hd' => h (hd.trans hd'.symm)]
    · rw [if_neg hd, if_neg hd]
  · simp only [config_derive]

/-! ## Families -/

/-- A context of a family, with all that was given to names on the way from the root to it. -/
structure Member where
  context : Context
  given : List (String × Value)

/-- The family with one more context. -/
def extend (members : List Member) (d : Derivation) : List Member :=
  match members[d.origin]? with
  | none => members
  | some m => members ++ [⟨m.context.derive d, m.given ++ [(d.name, d.value)]⟩]

/-- The contexts that come from a list of bindings by some derivations. -/
def family (bindings : List (String × Value)) (config : Config) (ds : List Derivation) :
    List Member :=
  ds.foldl extend [⟨ofBindings bindings config, bindings⟩]

/-- The context tells what was given on the way to it, under the configuration. -/
def Member.Faithful (config : Config) (m : Member) : Prop :=
  m.context.Records m.given ∧ m.context.config = config

/-- If the contexts so far tell what was given, so does one that is derived from them. -/
theorem faithful_extend {config : Config} {members : List Member}
    (h : ∀ m ∈ members, m.Faithful config) (d : Derivation) :
    ∀ m ∈ extend members d, m.Faithful config := by
  unfold extend
  split
  · exact h
  · rename_i parent hparent
    obtain ⟨hrecords, hconfig⟩ := h parent (List.mem_of_getElem? hparent)
    rw [List.forall_mem_append]
    refine ⟨h, List.forall_mem_singleton.2 ⟨?_, ?_⟩⟩
    · rw [derive_eq_bind]
      exact hrecords.bind d.name d.value
    · rw [config_derive, hconfig]

/-- Every context of a family tells what was given on the way to it. -/
theorem faithful_family (bindings : List (String × Value)) (config : Config)
    (ds : List Derivation) : ∀ m ∈ family bindings config ds, m.Faithful config := by
  have hroot : ∀ m ∈ [(⟨ofBindings bindings config, bindings⟩ : Member)], m.Faithful config :=
    List.forall_mem_singleton.2 ⟨records_ofBindings bindings config, rfl⟩
  unfold family
  generalize [(⟨ofBindings bindings config, bindings⟩ : Member)] = members at hroot ⊢
  induction ds generalizing members with
  | nil => exact hroot
  | cons d ds ih => exact ih _ (faithful_extend hroot d)

/-- What is derived later leaves the family as it was. -/
theorem family_append (bindings : List (String × Value)) (config : Config)
    (ds ds' : List Derivation) :
    family bindings config ds <+: family bindings config (ds ++ ds') := by
  rw [family, family, List.foldl_append]
  generalize ds.foldl extend _ = members
  induction ds' generalizing members with
  | nil => exact List.prefix_refl members
  | cons d ds' ih =>
    refine List.IsPrefix.trans ?_ (ih (extend members d))
    unfold extend
    split
    · exact List.prefix_refl members
    · exact List.prefix_append members _

/-- All contexts of a family tell what was given to names on the way from the root to them, the
bindings of the root first, and have the configuration of the root; contexts that are derived later
leave them as they were; and where two names are bound one after the other, on any way, the order
makes no difference. -/
theorem family_records (bindings : List (String × Value)) (config : Config)
    (ds : List Derivation) :
    (∀ m ∈ family bindings config ds, m.context.Records m.given ∧ m.context.config = config) ∧
    (∀ ds', family bindings config ds <+: family bindings config (ds ++ ds')) ∧
    ∀ (c : Context) (d d' : Derivation), d.name ≠ d'.name → ∀ ds' : List Derivation,
      (((c.derive d).derive d').deriveAll ds').Same (((c.derive d').derive d).deriveAll ds') := by
  refine ⟨faithful_family bindings config ds, family_append bindings config ds, ?_⟩
  intro c d d' h ds'
  exact (same_derive_derive c h).deriveAll ds'

/-- A name that is given two values at the root has the second one wherever it is given no other,
and a context that is derived beside does not see what the other one was given. -/
theorem family_records_siblings :
    ∃ m ∈ family [("x", .boolean false), ("x", .nil)] .new
        [⟨0, none, "x", .boolean true⟩, ⟨0, some (.var "x"), "y", .nil⟩],
      m.given = [("x", .boolean false), ("x", .nil), ("y", .nil)] ∧
      m.context.get? "x" = some .nil ∧ m.context.get? "z" = none ∧ m.context.size = 2 ∧
      "x" ≠ "y" ∧
      ((m.context.derive ⟨0, none, "x", .nil⟩).derive ⟨0, some (.var "x"), "y", .boolean true⟩).Same
        ((m.context.derive ⟨0, some (.var "x"), "y", .boolean true⟩).derive ⟨0, none, "x", .nil⟩) := by
  obtain ⟨hall, -, hcomm⟩ := family_records [("x", .boolean false), ("x", .nil)] .new
    [⟨0, none, "x", .boolean true⟩, ⟨0, some (.var "x"), "y", .nil⟩]
  refine ⟨_, List.mem_cons_of_mem _ (List.mem_cons_of_mem _ List.mem_cons_self), rfl, ?_⟩
  obtain ⟨hrecords, -⟩ :=
    hall _ (List.mem_cons_of_mem _ (List.mem_cons_of_mem _ List.mem_cons_self))
  have hne : "x" ≠ "y" := by decide
  refine ⟨?_, ?_, ?_, hne,
    hcomm _ ⟨0, none, "x", .nil⟩ ⟨0, some (.var "x"), "y", .boolean true⟩ hne []⟩
  · exact (hrecords.get?_eq_some_iff "x" .nil).2 ⟨[("x", .boolean false)], [("y", .nil)], rfl, by simp⟩
  · exact (hrecords.get?_eq_none_iff "z").2 (by simp)
  · exact hrecords.size_eq

end Context

end TemplateExpr
