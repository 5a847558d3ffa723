/-
# Operators of the grammar

The operators that a parser knows are those of the grammar: each of them makes an expression of its
tier out of one of that tier and one of the tier before.

Main statements:
* `orderNode?_eq_some_iff`, `equalityNode?_eq_some_iff`, `containmentNode?_eq_some_iff`: the tokens
  that are operators;
* `operators_order`, `operators_equality`, `operators_containment`: the three tiers of operators;
* `connects_and`, `connects_or`: the two tiers of connectives.
-/
import TemplateExpr.Expr.Parse
import TemplateExpr.Proofs.Grammar.Cost

namespace TemplateExpr

namespace Parse

/-! ## Tokens -/

/-- Four comparisons ask for an order. -/
theorem orderNode?_eq_some_iff {t : Token} {node : Expr → Expr → Expr} :
    orderNode? t = some node ↔
      ∃ op ∈ [Comparison.less, .greater, .lessEqual, .greaterEqual],
        t = .compare op ∧ Expr.compare op = node := by
  constructor
  · intro h
    cases t with
    | compare op =>
      refine ⟨op, ?_, rfl, ?_⟩ <;> cases op <;>
        simp_all [orderNode?, Comparison.asksEquality]
    | _ => simp [orderNode?] at h
  · rintro ⟨op, hop, rfl, rfl⟩
    cases op <;> simp_all [orderNode?, Comparison.asksEquality]

/-- Two comparisons ask for equality. -/
theorem equalityNode?_eq_some_iff {t : Token} {node : Expr → Expr → Expr} :
    equalityNode? t = some node ↔
      ∃ op ∈ [Comparison.equal, .notEqual], t = .compare op ∧ Expr.compare op = node := by
  constructor
  · intro h
    cases t with
    | compare op =>
      refine ⟨op, ?_, rfl, ?_⟩ <;> cases op <;>
        simp_all [equalityNode?, Comparison.asksEquality]
    | _ => simp [equalityNode?] at h
  · rintro ⟨op, hop, rfl, rfl⟩
    cases op <;> simp_all [equalityNode?, Comparison.asksEquality]

/-- One operator asks for containment. -/
theorem containmentNode?_eq_some_iff {t : Token} {node : Expr → Expr → Expr} :
    containmentNode? t = some node ↔ t = .contains ∧ Expr.contains = node := by
  cases t <;> simp [containmentNode?]

/-- A token that is a literal is a primary expression. -/
theorem literal?_eq_some {t : Token} {v : Value} (h : literal? t = some v) :
    Derives .primary [t] (.literal v) := by
  unfold literal? at h
  cases t <;> simp only [Option.some.injEq, reduceCtorEq] at h <;> subst h
  · exact .integer _
  · exact .float _
  · exact .string _
  · exact .boolean _
  · exact .nil

/-- What a pipe links to an expression. -/
theorem filterLink_eq_some_iff {t : Token} {read : Expr → Nat → Parse Expr} :
    filterLink t = some read ↔ t = .pipe ∧ some read = filterLink .pipe := by
  cases t <;> simp [filterLink, eq_comm]

/-- What a point and an opening bracket link to an expression. -/
theorem accessLink_eq_some_iff {nested : Nat → Parse Expr} {t : Token}
    {read : Expr → Nat → Parse Expr} : accessLink nested t = some read ↔
      (t = .dot ∧ some read = accessLink nested .dot) ∨
      (t = .openBracket ∧ some read = accessLink nested .openBracket) := by
  cases t <;> simp [accessLink, eq_comm]

/-! ## Tiers of operators -/

/-- The operators make expressions of the tier `K` out of such and those of the tier `T`. -/
structure Operators (K T : Tier) (node? : Token → Option (Expr → Expr → Expr)) : Prop where
  rank : K.rank = T.rank + 1
  tier : ∀ {t node}, node? t = some node → t.tier? = some K
  derives : ∀ {t node ts us left right}, node? t = some node → Derives K ts left →
    Derives T us right → Derives K (ts ++ t :: us) (node left right)
  links : ∀ {t node left right}, node? t = some node →
    (node left right).links K = left.links K + 1
  cost : ∀ {t node left right}, node? t = some node →
    (node left right).cost = max left.cost (left.links K + 1 + right.cost)

/-- Behind an operator the beginning of its operand is expected. -/
theorem Operators.viable {K T : Tier} {node? : Token → Option (Expr → Expr → Expr)}
    (h : Operators K T node?) {t : Token} {node : Expr → Expr → Expr} {ts us : List Token}
    {left : Expr} (hnode : node? t = some node) (hleft : Derives K ts left) (hus : Viable T us) :
    Viable K (ts ++ t :: us) := by
  obtain ⟨vs, right, hright⟩ := hus
  exact (h.derives hnode hleft hright).viable vs (by simp)

/-- Comparisons are the operators of their tier. -/
theorem operators_compare {K T : Tier} {node? : Token → Option (Expr → Expr → Expr)}
    {ops : List Comparison} (hrank : K.rank = T.rank + 1)
    (hnode : ∀ {t node}, node? t = some node ↔
      ∃ op ∈ ops, t = .compare op ∧ Expr.compare op = node)
    (htier : ∀ {op}, op ∈ ops → op.tier = K)
    (hderives : ∀ {op ts us left right}, op ∈ ops → Derives K ts left → Derives T us right →
      Derives K (ts ++ .compare op :: us) (.compare op left right)) : Operators K T node? where
  rank := hrank
  tier := by
    intro t node hn
    obtain ⟨op, hop, rfl, -⟩ := hnode.1 hn
    rw [Token.tier?, htier hop]
  derives := by
    intro t node ts us left right hn hl hr
    obtain ⟨op, hop, rfl, rfl⟩ := hnode.1 hn
    exact hderives hop hl hr
  links := by
    intro t node left right hn
    obtain ⟨op, hop, rfl, rfl⟩ := hnode.1 hn
    rw [Expr.links, htier hop, if_pos rfl]
  cost := by
    intro t node left right hn
    obtain ⟨op, hop, rfl, rfl⟩ := hnode.1 hn
    rw [Expr.cost, htier hop]

/-- The comparisons that ask for an order join expressions with filters. -/
theorem operators_order : Operators .ordering .filtered orderNode? :=
  operators_compare rfl orderNode?_eq_some_iff Comparison.tier_eq_ordering_iff.2
    fun hop hl hr => hl.order hop hr

/-- The comparisons that ask for equality join those that ask for an order. -/
theorem operators_equality : Operators .equality .ordering equalityNode? :=
  operators_compare rfl equalityNode?_eq_some_iff Comparison.tier_eq_equality_iff.2
    fun hop hl hr => hl.equal hop hr

/-- The operator `contains` joins comparisons. -/
theorem operators_containment : Operators .containment .equality containmentNode? where
  rank := rfl
  tier := by
    intro t node hn
    obtain ⟨rfl, -⟩ := containmentNode?_eq_some_iff.1 hn
    rfl
  derives := by
    intro t node ts us left right hn hl hr
    obtain ⟨rfl, rfl⟩ := containmentNode?_eq_some_iff.1 hn
    exact hl.contains hr
  links := by
    intro t node left right hn
    obtain ⟨rfl, rfl⟩ := containmentNode?_eq_some_iff.1 hn
    simp [Expr.links]
  cost := by
    intro t node left right hn
    obtain ⟨rfl, rfl⟩ := containmentNode?_eq_some_iff.1 hn
    rw [Expr.cost]

/-! ## Tiers of connectives -/

/-- The connective joins expressions of the tier `T` to one of the tier `K`. -/
structure Connects (K T : Tier) (op : Connective) : Prop where
  rank : K.rank = T.rank + 1
  tier : ∀ {t : Token}, t.tier? = some K ↔ t = .logical op
  lift : ∀ {ts e}, Derives T ts e → Derives K ts e
  derives : ∀ {ts e} {more : List (List Token × Expr)}, Derives T ts e → more ≠ [] →
    (∀ p ∈ more, Derives T p.1 p.2) →
    Derives K (ts ++ more.flatMap fun p => .logical op :: p.1)
      (.logical op (e :: more.map fun p => p.2))

/-- The connective `and` joins containments. -/
theorem connects_and : Connects .conjunction .containment .and where
  rank := rfl
  tier := Token.tier?_eq_conjunction_iff
  lift := .ofContainment
  derives h hne hmore := h.and _ hne hmore

/-- The connective `or` joins conjunctions. -/
theorem connects_or : Connects .disjunction .conjunction .or where
  rank := rfl
  tier := Token.tier?_eq_disjunction_iff
  lift := .ofConjunction
  derives h hne hmore := h.or _ hne hmore

/-- An operand ends at the connective. -/
theorem Connects.endsAt {K T : Tier} {op : Connective} (h : Connects K T op) :
    T.EndsAt (.logical op) := by
  intro J hJ
  have hrank := h.rank
  rw [h.tier.2 rfl, Option.mem_some_iff] at hJ
  rw [← hJ]
  omega

/-- Behind some operands and the connective the beginning of an operand is expected. -/
theorem Connects.viable {K T : Tier} {op : Connective} (h : Connects K T op) {ts us : List Token}
    {e : Expr} {more : List (List Token × Expr)} (hfirst : Derives T ts e)
    (hmore : ∀ q ∈ more, Derives T q.1 q.2) (hus : Viable T us) :
    Viable K (ts ++ (more.flatMap fun q => .logical op :: q.1) ++ .logical op :: us) := by
  obtain ⟨vs, e', he'⟩ := hus
  have hall : ∀ q ∈ more ++ [(us ++ vs, e')], Derives T q.1 q.2 := by
    simpa [or_imp, forall_and] using ⟨fun a b hab => hmore (a, b) hab, he'⟩
  exact (h.derives hfirst (by simp) hall).viable vs (by simp)

/-- A chain of the expressions that belong to some things. -/
theorem Connects.derives_map {K T : Tier} {op : Connective} (h : Connects K T op) {α : Type}
    {tokens : α → List Token} {tree : α → Expr} {a : α} {as : List α} (hne : as ≠ [])
    (has : ∀ b ∈ a :: as, Derives T (tokens b) (tree b)) :
    Derives K (tokens a ++ as.flatMap fun b => .logical op :: tokens b)
      (.logical op ((a :: as).map tree)) := by
  have hmore : ∀ q ∈ as.map fun b => (tokens b, tree b), Derives T q.1 q.2 :=
    List.forall_mem_map.2 fun b hb => has b (List.mem_cons_of_mem a hb)
  have hchain := h.derives (has a List.mem_cons_self) (by simpa using hne) hmore
  simpa [List.flatMap_map, Function.comp_def] using hchain

end Parse

end TemplateExpr
