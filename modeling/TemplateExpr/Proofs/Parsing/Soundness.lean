/-
# Soundness of the parsers

A parser that succeeds has read an expression of its tier and has entered no more levels for it
than its budget.  Each operator is sound if the parser for nested expressions is; the circle is
closed by induction on the number of expressions inside each other.

Main statements:
* `links_sound`: what a chain keeps from link to link;
* `sound_disjunction`: all tiers are sound over a sound parser for nested expressions;
* `spans_of_expression`: an expression that is parsed is one of the grammar.
-/
import TemplateExpr.Expr.Nesting
import TemplateExpr.Proofs.Grammar.Operators
import TemplateExpr.Proofs.Parsing.Reads

namespace TemplateExpr

/-- Between the cursors stands an expression of the tier, at no more than the given cost. -/
def Cursor.Spans (c : Cursor) (T : Tier) (budget : Nat) (e : Expr) (c' : Cursor) : Prop :=
  ∃ ts, c.Reads ts c' ∧ Derives T ts e ∧ e.cost ≤ budget

namespace Parse

/-- The parser finds nothing but expressions of the tier within its budget. -/
def Sound (T : Tier) (p : Nat → Parse Expr) : Prop :=
  ∀ {b c e c'}, p b c = .ok e c' → c.Spans T b e c'

/-- The parser finds nothing but expressions inside others, each at the cost of one level. -/
def SoundInside (p : Nat → Parse Expr) : Prop :=
  ∀ {b c e c'}, p b c = .ok e c' → ∃ n, b = n + 1 ∧ c.Spans .disjunction n e c'

/-! ## Chains -/

/-- A link makes a chain of the tier longer by one and is paid for as such. -/
def SoundLink (K : Tier) (l : Link) : Prop :=
  ∀ {read b c left e c' ts}, l c.current.item = some read → Derives K ts left →
    read left b c = .ok e c' →
    ∃ us, c.Reads us c' ∧ Derives K (ts ++ us) e ∧ e.links K = left.links K + 1 ∧
      e.cost ≤ max left.cost (left.links K + 1 + b)

variable {K T : Tier} {l : Link} {first : Nat → Parse Expr}

/-- The number of links and the budget that is left always make up the same sum, and no part of
the chain costs more than that. -/
theorem links_sound (h : SoundLink K l) {b : Nat} {left e : Expr} {c c' : Cursor}
    {ts : List Token} (hleft : Derives K ts left) (hcost : left.cost ≤ left.links K + b)
    (hrun : links l b left c = .ok e c') :
    ∃ us, c.Reads us c' ∧ Derives K (ts ++ us) e ∧ e.cost ≤ left.links K + b := by
  induction b generalizing left c ts with
  | zero =>
    cases hl : l c.current.item with
    | none =>
      rw [links_of_none hl, EStateM.Result.ok.injEq] at hrun
      obtain ⟨rfl, rfl⟩ := hrun
      exact ⟨[], .refl c, by rwa [List.append_nil], hcost⟩
    | some read => rw [links_zero hl, enterTooDeep_run] at hrun; simp at hrun
  | succ b ih =>
    cases hl : l c.current.item with
    | none =>
      rw [links_of_none hl, EStateM.Result.ok.injEq] at hrun
      obtain ⟨rfl, rfl⟩ := hrun
      exact ⟨[], .refl c, by rwa [List.append_nil], hcost⟩
    | some read =>
      rw [links_succ hl, within_eq_ok_iff, bind_eq_ok_iff] at hrun
      -- the level that the link takes from the budget is the link more in the expression
      obtain ⟨e₁, c₁, hread, hrest⟩ := hrun
      obtain ⟨us, hus, he₁, hlinks, hcost₁⟩ := h hl hleft hread
      obtain ⟨vs, hvs, he, hcost'⟩ := ih he₁ (by omega) hrest
      refine ⟨us ++ vs, hus.trans hvs, ?_, by omega⟩
      rwa [← List.append_assoc]

/-- A chain whose first operand and links are of the grammar is an expression of its tier. -/
theorem sound_chain (h : SoundLink K l) (hfirst : Sound T first) (hlt : T.rank < K.rank)
    (hlift : ∀ {ts e}, Derives T ts e → Derives K ts e) : Sound K (chain l first) := by
  intro b c e c' hrun
  obtain ⟨e₀, c₀, h₀, hrest⟩ := bind_eq_ok_iff.1 hrun
  obtain ⟨ts, hts, he₀, hcost⟩ := hfirst h₀
  have hzero : e₀.links K = 0 := he₀.links_eq_zero hlt
  obtain ⟨us, hus, he, hcost'⟩ := links_sound h (hlift he₀) (by omega) hrest
  exact ⟨ts ++ us, hts.trans hus, he, by omega⟩

/-! ## Links -/

section

variable {nested : Nat → Parse Expr} {node? : Token → Option (Expr → Expr → Expr)}
  {operand : Nat → Parse Expr}

/-- An operator with its operand goes on with the chain. -/
theorem sound_operatorLink (h : Operators K T node?) (hoperand : Sound T operand) :
    SoundLink K (operatorLink node? operand) := by
  intro read b c left e c' ts hl hleft hread
  obtain ⟨node, hnode, rfl⟩ := Option.map_eq_some_iff.1 hl
  obtain ⟨_, c₁, ha, hread⟩ := bind_eq_ok_iff.1 hread
  obtain ⟨right, c₂, hright, hread⟩ := bind_eq_ok_iff.1 hread
  obtain ⟨rfl, rfl⟩ := pure_eq_ok_iff.1 hread
  obtain ⟨us, hus, hder, hcost⟩ := hoperand hright
  have hnew := h.derives hnode hleft hder
  have hne : c.current.item ≠ .endOfSource := hnew.ne_endOfSource _ (by simp)
  refine ⟨_, .step hne ha hus, hnew, h.links hnode, ?_⟩
  rw [h.cost hnode]
  omega

/-- A filter goes on with an expression. -/
theorem sound_filterLink : SoundLink .filtered filterLink := by
  intro read b c left e c' ts hl hleft hread
  obtain ⟨ht, hread'⟩ := filterLink_eq_some_iff.1 hl
  obtain rfl := Option.some.inj hread'
  obtain ⟨_, c₁, ha, hread⟩ := bind_eq_ok_iff.1 hread
  rw [peek_bind] at hread
  cases hname : c₁.current.item with
  | identifier name =>
    rw [hname] at hread
    obtain ⟨_, c₂, ha₂, hread⟩ := bind_eq_ok_iff.1 hread
    obtain ⟨rfl, rfl⟩ := pure_eq_ok_iff.1 hread
    refine ⟨[.pipe, .identifier name], ?_, hleft.filter name, by simp [Expr.links], ?_⟩
    · rw [← ht, ← hname]
      exact .step (by simp [ht]) ha (Cursor.reads_of_advance (by simp [hname]) ha₂)
    · rw [Expr.cost]
      omega
  | _ =>
    rw [hname] at hread
    simp [stop_run] at hread

/-- An attribute or an index goes on with an expression. -/
theorem sound_accessLink (h : SoundInside nested) : SoundLink .access (accessLink nested) := by
  intro read b c left e c' ts hl hleft hread
  rcases accessLink_eq_some_iff.1 hl with ⟨ht, hread'⟩ | ⟨ht, hread'⟩
  · obtain rfl := Option.some.inj hread'
    obtain ⟨_, c₁, ha, hread⟩ := bind_eq_ok_iff.1 hread
    rw [peek_bind] at hread
    cases hname : c₁.current.item.word? with
    | some name =>
      rw [hname] at hread
      obtain ⟨_, c₂, ha₂, hread⟩ := bind_eq_ok_iff.1 hread
      obtain ⟨rfl, rfl⟩ := pure_eq_ok_iff.1 hread
      have hder := hleft.field (namesAttribute_iff.2 hname)
      refine ⟨[.dot, c₁.current.item], ?_, hder, by simp [Expr.links], ?_⟩
      · rw [← ht]
        exact .step (by simp [ht]) ha
          (Cursor.reads_of_advance (hder.ne_endOfSource _ (by simp)) ha₂)
      · rw [Expr.cost]
        omega
    | none =>
      rw [hname] at hread
      simp [stop_run] at hread
  · obtain rfl := Option.some.inj hread'
    obtain ⟨_, c₁, ha, hread⟩ := bind_eq_ok_iff.1 hread
    obtain ⟨place, c₂, hplace, hread⟩ := bind_eq_ok_iff.1 hread
    obtain ⟨_, c₃, hclose, hread⟩ := bind_eq_ok_iff.1 hread
    obtain ⟨rfl, rfl⟩ := pure_eq_ok_iff.1 hread
    obtain ⟨hbracket, ha₃⟩ := expect_eq_ok_iff.1 hclose
    obtain ⟨n, rfl, us, hus, hder, hcost⟩ := h hplace
    refine ⟨.openBracket :: (us ++ [.closeBracket]), ?_, hleft.index hder,
      by simp [Expr.links], ?_⟩
    · rw [← ht, ← hbracket]
      exact .step (by simp [ht]) ha
        (hus.trans (Cursor.reads_of_advance (by simp [hbracket]) ha₃))
    · rw [Expr.cost]
      omega

/-! ## Primary expressions -/

/-- Primary expressions are those of the grammar. -/
theorem sound_primary (h : SoundInside nested) : Sound .primary (primary nested) := by
  intro b c e c' hrun
  rcases primary_cases nested b c with ⟨v, hv, h'⟩ | ⟨name, hname, h'⟩ | ⟨hopen, h'⟩ | ⟨-, h'⟩ <;>
    rw [h'] at hrun
  · obtain ⟨_, c₁, ha, hrun⟩ := bind_eq_ok_iff.1 hrun
    obtain ⟨rfl, rfl⟩ := pure_eq_ok_iff.1 hrun
    have hder := literal?_eq_some hv
    exact ⟨_, Cursor.reads_of_advance (hder.ne_endOfSource _ (by simp)) ha, hder,
      Nat.zero_le _⟩
  · obtain ⟨_, c₁, ha, hrun⟩ := bind_eq_ok_iff.1 hrun
    obtain ⟨rfl, rfl⟩ := pure_eq_ok_iff.1 hrun
    refine ⟨_, Cursor.reads_of_advance (by simp [hname]) ha, ?_, Nat.zero_le _⟩
    rw [hname]
    exact .var name
  · obtain ⟨_, c₁, ha, hrun⟩ := bind_eq_ok_iff.1 hrun
    obtain ⟨inner, c₂, hinner, hrun⟩ := bind_eq_ok_iff.1 hrun
    obtain ⟨_, c₃, hclose, hrun⟩ := bind_eq_ok_iff.1 hrun
    obtain ⟨rfl, rfl⟩ := pure_eq_ok_iff.1 hrun
    obtain ⟨hparen, ha₃⟩ := expect_eq_ok_iff.1 hclose
    obtain ⟨n, rfl, us, hus, hder, hcost⟩ := h hinner
    refine ⟨.openParen :: (us ++ [.closeParen]), ?_, hder.group, ?_⟩
    · rw [← hopen, ← hparen]
      exact .step (by simp [hopen]) ha
        (hus.trans (Cursor.reads_of_advance (by simp [hparen]) ha₃))
    · rw [Expr.cost]
      omega
  · simp [stop_run] at hrun

/-! ## Connectives -/

/-- The operands that are read stand behind their connectives, one after the other. -/
theorem operands_sound {op : Connective} {p : Parse Expr} {b : Nat}
    (hp : ∀ {c e c'}, p c = .ok e c' → c.Spans T b e c') {bound : Nat} {c c' : Cursor}
    {es : List Expr} (hrun : operands op p bound c = .ok es c') :
    ∃ more : List (List Token × Expr), es = more.map (fun q => q.2) ∧
      c.Reads (more.flatMap fun q => .logical op :: q.1) c' ∧
      ∀ q ∈ more, Derives T q.1 q.2 ∧ q.2.cost ≤ b := by
  induction bound generalizing c es with
  | zero =>
    obtain ⟨rfl, rfl⟩ := pure_eq_ok_iff.1 hrun
    exact ⟨[], rfl, .refl c, by simp⟩
  | succ bound ih =>
    rw [operands, peek_bind] at hrun
    split at hrun
    · rename_i hop
      obtain ⟨_, c₁, ha, hrun⟩ := bind_eq_ok_iff.1 hrun
      obtain ⟨e, c₂, he, hrun⟩ := bind_eq_ok_iff.1 hrun
      obtain ⟨es', c₃, hes, hrun⟩ := bind_eq_ok_iff.1 hrun
      obtain ⟨rfl, rfl⟩ := pure_eq_ok_iff.1 hrun
      obtain ⟨ts, hts, hder, hcost⟩ := hp he
      obtain ⟨more, rfl, hmore, hall⟩ := ih hes
      refine ⟨(ts, e) :: more, rfl, ?_, by simpa using ⟨⟨hder, hcost⟩, by simpa using hall⟩⟩
      rw [List.flatMap_cons, List.cons_append, ← hop]
      exact .step (by simp [hop]) ha (hts.trans (hop ▸ hmore))
    · obtain ⟨rfl, rfl⟩ := pure_eq_ok_iff.1 hrun
      exact ⟨[], rfl, .refl c, by simp⟩

/-- A flat chain is one operand or a chain of its connective. -/
theorem sound_flat {op : Connective} (h : Connects K T op) (hoperand : Sound T operand) :
    Sound K (flat op operand) := by
  intro b c e c' hrun
  obtain ⟨first, c₁, hfirst, hrun⟩ := bind_eq_ok_iff.1 hrun
  obtain ⟨ts, hts, hder, hcost⟩ := hoperand hfirst
  rw [peek_bind] at hrun
  split at hrun
  · rename_i hop
    obtain ⟨_, _, hget, hrun⟩ := bind_eq_ok_iff.1 hrun
    obtain ⟨rfl, rfl⟩ := EStateM.Result.ok.inj hget
    obtain ⟨es, c₂, hes, hrun⟩ := bind_eq_ok_iff.1 hrun
    obtain ⟨rfl, rfl⟩ := pure_eq_ok_iff.1 hrun
    obtain ⟨more, rfl, hmore, hall⟩ := operands_sound hoperand hes
    -- with the connective under the cursor there is at least one round
    have hne : more ≠ [] := by
      rintro rfl
      rw [operands, peek_bind, if_pos hop] at hes
      obtain ⟨_, c₃, -, hes⟩ := bind_eq_ok_iff.1 hes
      obtain ⟨e, c₄, -, hes⟩ := bind_eq_ok_iff.1 hes
      obtain ⟨es', c₅, -, hes⟩ := bind_eq_ok_iff.1 hes
      simp [pure_eq_ok_iff] at hes
    refine ⟨_, hts.trans hmore, h.derives hder hne fun q hq => (hall q hq).1, ?_⟩
    rw [Expr.cost, Expr.maxCost_le_iff]
    simp only [List.mem_cons, List.mem_map, forall_eq_or_imp]
    refine ⟨hcost, ?_⟩
    rintro _ ⟨q, hq, rfl⟩
    exact (hall q hq).2
  · obtain ⟨rfl, rfl⟩ := pure_eq_ok_iff.1 hrun
    exact ⟨ts, hts, h.lift hder, hcost⟩

/-! ## All tiers -/

/-- Expressions with attributes and indices are those of the grammar. -/
theorem sound_access (h : SoundInside nested) : Sound .access (access nested) :=
  sound_chain (sound_accessLink h) (sound_primary h) (by decide) .ofPrimary

/-- Expressions with filters are those of the grammar. -/
theorem sound_filtered (h : SoundInside nested) : Sound .filtered (filtered nested) :=
  sound_chain sound_filterLink (sound_access h) (by decide) .ofAccess

/-- Chains that ask for an order are those of the grammar. -/
theorem sound_ordering (h : SoundInside nested) : Sound .ordering (ordering nested) :=
  sound_chain (sound_operatorLink operators_order (sound_filtered h)) (sound_filtered h)
    (by decide) .ofFiltered

/-- Chains that ask for equality are those of the grammar. -/
theorem sound_equality (h : SoundInside nested) : Sound .equality (equality nested) :=
  sound_chain (sound_operatorLink operators_equality (sound_ordering h)) (sound_ordering h)
    (by decide) .ofOrdering

/-- Chains of `contains` are those of the grammar. -/
theorem sound_containment (h : SoundInside nested) : Sound .containment (containment nested) :=
  sound_chain (sound_operatorLink operators_containment (sound_equality h)) (sound_equality h)
    (by decide) .ofEquality

/-- Chains of `and` are those of the grammar. -/
theorem sound_conjunction (h : SoundInside nested) : Sound .conjunction (conjunction nested) :=
  sound_flat connects_and (sound_containment h)

/-- Over nested expressions of the grammar, all tiers are those of the grammar. -/
theorem sound_disjunction (h : SoundInside nested) : Sound .disjunction (disjunction nested) :=
  sound_flat connects_or (sound_conjunction h)

end

/-! ## Expressions -/

/-- However many expressions may stand inside each other, they are of the grammar. -/
theorem soundInside_expressionUpTo (count : Nat) : SoundInside (expressionUpTo count) := by
  induction count with
  | zero =>
    intro b c e c' hrun
    simp [expressionUpTo, enterTooDeep_run] at hrun
  | succ count ih =>
    intro b c e c' hrun
    cases b with
    | zero => simp [expressionUpTo, nest, enterTooDeep_run] at hrun
    | succ n =>
      -- one expression less can stand inside this one, as one level less is left for it
      rw [expressionUpTo, nest, within_eq_ok_iff] at hrun
      exact ⟨n, rfl, sound_disjunction ih hrun⟩

/-- An expression that is parsed is one of the grammar, and its cost is below the budget. -/
theorem spans_of_expression {b : Nat} {c c' : Cursor} {e : Expr}
    (h : expression b c = .ok e c') : ∃ n, b = n + 1 ∧ c.Spans .disjunction n e c' :=
  soundInside_expressionUpTo b h

end Parse

end TemplateExpr
