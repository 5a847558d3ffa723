/-
# Completeness of the parsers

A parser finds the expression that stands at the cursor if no expression goes on with the token
behind it and the budget covers the cost.  The proof follows the derivation.  Since a derivation of
a chain begins with its last link, what is shown of a chain is how the parser goes on behind it.

Main statements:
* `chainComplete_link`: one more link;
* `operands_complete`: the operands of a connective;
* `expression_of_endsBehind`, `expression_of_derives`: every expression of the grammar is found;
* `Derives.unique`: the tokens are no more than one expression.
-/
import TemplateExpr.Expr.Nesting
import TemplateExpr.Proofs.Grammar.Operators
import TemplateExpr.Proofs.Parsing.Reads

namespace TemplateExpr

namespace Parse

/-! ## What is shown -/

/-- The parser finds the expression where its tier ends behind the tokens. -/
def Complete (T : Tier) (p : Nat → Parse Expr) (ts : List Token) (e : Expr) : Prop :=
  ∀ b c c', c.ahead.Proper → c.Reads ts c' → T.EndsBehind ts c'.current.item → e.cost ≤ b →
    p b c = .ok e c'

/-- Unless the token behind the expression goes on with its last operand, the parser goes on there
with its links, with a budget from which those in the expression have been taken. -/
def ChainComplete (K : Tier) (l : Link) (first : Nat → Parse Expr) (ts : List Token)
    (e : Expr) : Prop :=
  ∀ b c c' a c'', c.ahead.Proper → c.Reads ts c' →
    (∀ J ∈ c'.current.item.tier?, J.rank < K.rank → ¬ Viable K (ts ++ [c'.current.item])) →
    e.cost ≤ b → links l (b - e.links K) e c' = .ok a c'' → chain l first b c = .ok a c''

/-- The links of the tier: their tokens are those with which expressions of the tier go on. -/
structure LinksOf (K : Tier) (l : Link) : Prop where
  tier : ∀ {t read}, l t = some read → t.tier? = some K
  viable : ∀ {t read ts e}, l t = some read → Derives K ts e → Viable K (ts ++ [t])

variable {K T : Tier} {l : Link} {first : Nat → Parse Expr} {ts us : List Token}
  {e left : Expr}

/-! ## Chains -/

/-- Where the tier ends there is no link. -/
theorem complete_of_chainComplete (hl : LinksOf K l) (hder : Derives K ts e)
    (h : ChainComplete K l first ts e) : Complete K (chain l first) ts e := by
  intro b c c' hc hts hends hcost
  -- a token with a link would go on with the expression
  have hnone : l c'.current.item = none := by
    cases hread : l c'.current.item with
    | none => rfl
    | some read => exact absurd (hl.viable hread hder) (hends K (hl.tier hread) (Nat.le_refl _))
  exact h b c c' e c' hc hts (fun J hJ hlt => hends J hJ (Nat.le_of_lt hlt)) hcost
    (links_of_none hnone _ _)

/-- An expression of the tier before is a chain without links. -/
theorem chainComplete_of_complete (hrank : K.rank = T.rank + 1)
    (hlift : ∀ {ts e}, Derives T ts e → Derives K ts e) (hder : Derives T ts e)
    (h : Complete T first ts e) : ChainComplete K l first ts e := by
  intro b c c' a c'' hc hts hends hcost hlinks
  have hzero : e.links K = 0 := hder.links_eq_zero (by omega)
  have hfirst : first b c = .ok e c' := by
    refine h b c c' hc hts (fun J hJ hle hviable => ?_) hcost
    exact hends J hJ (by omega) (hviable.mono hlift)
  -- no link has been taken from the budget yet
  rw [hzero] at hlinks
  exact bind_eq_ok_iff.2 ⟨e, c', hfirst, hlinks⟩

/-- One more link. -/
theorem chainComplete_link {t : Token} {read : Expr → Nat → Parse Expr}
    (hleft : ChainComplete K l first ts left) (ht : t.tier? = some K) (hl : l t = some read)
    (hlinks : e.links K = left.links K + 1) (hcost : left.links K + 1 ≤ e.cost)
    (hle : left.cost ≤ e.cost)
    (hread : ∀ {b c c'}, c.ahead.Proper → c.Reads (t :: us) c' →
      (∀ J ∈ c'.current.item.tier?, J.rank < K.rank →
        ¬ Viable K (ts ++ t :: us ++ [c'.current.item])) →
      e.cost ≤ left.links K + 1 + b → read left b c = .ok e c') :
    ChainComplete K l first (ts ++ t :: us) e := by
  intro b c c' a c'' hc hts hends hb hgo
  obtain ⟨c₁, hc₁, hc'⟩ := hts.split
  obtain ⟨n, hn⟩ : ∃ n, b - left.links K = n + 1 := ⟨b - left.links K - 1, by omega⟩
  have hitem : c₁.current.item = t := (Cursor.reads_cons_iff.1 hc').1
  apply hleft b c c₁ a c'' hc hc₁ _ (by omega)
  · -- the link at the cursor takes one level, and the rest of the chain goes on from there
    rw [hn, links_succ (by rw [hitem]; exact hl), within_eq_ok_iff, bind_eq_ok_iff]
    refine ⟨e, c', hread (hc₁.proper hc) hc' hends (by omega), ?_⟩
    rwa [show n = b - e.links K by omega]
  · intro J hJ hlt
    rw [hitem, ht, Option.mem_some_iff] at hJ
    exact absurd (congrArg Tier.rank hJ) (Nat.ne_of_gt hlt)

/-- An operator with its right operand is a link. -/
theorem chainComplete_operator {node? : Token → Option (Expr → Expr → Expr)}
    {operand : Nat → Parse Expr} {t : Token} {node : Expr → Expr → Expr} {right : Expr}
    (h : Operators K T node?) (hnode : node? t = some node) (hder : Derives K ts left)
    (hleft : ChainComplete K (operatorLink node? operand) first ts left)
    (hright : Complete T operand us right) :
    ChainComplete K (operatorLink node? operand) first (ts ++ t :: us) (node left right) := by
  have hcost : (node left right).cost = max left.cost (left.links K + 1 + right.cost) :=
    h.cost hnode
  refine chainComplete_link hleft (h.tier hnode) (by rw [operatorLink, hnode]; rfl) (h.links hnode)
    (by omega) (by omega) ?_
  intro b c c' hc hts hends hb
  obtain ⟨-, -, c₁, ha, hus⟩ := Cursor.reads_cons_iff.1 hts
  -- what goes on with the operand goes on with the chain
  have hoperand : operand b c₁ = .ok right c' := by
    refine hright b c₁ c' (Cursor.proper_of_advance hc ha) hus (fun J hJ hle hviable => ?_)
      (by omega)
    have hrank := h.rank
    have hchain := h.viable hnode hder hviable
    rw [← List.cons_append, ← List.append_assoc] at hchain
    exact hends J hJ (by omega) hchain
  rw [bind_eq_ok_iff]
  refine ⟨(), c₁, ha, ?_⟩
  rw [bind_of_ok hoperand]
  rfl

/-! ## Connectives -/

/-- The operands of a connective are found as long as there are at least as many rounds as tokens
are left. -/
theorem operands_complete {op : Connective} {p : Parse Expr} (h : Connects K T op)
    {more : List (List Token × Expr)} {bound : Nat} {c c' : Cursor} (hc : c.ahead.Proper)
    (hp : ∀ q ∈ more, ∀ c c', c.ahead.Proper → c.Reads q.1 c' →
      T.EndsBehind q.1 c'.current.item → p c = .ok q.2 c')
    (hts : c.Reads (more.flatMap fun q => .logical op :: q.1) c')
    (hlast : ∀ q ∈ more.getLast?, T.EndsBehind q.1 c'.current.item)
    (hne : c'.current.item ≠ .logical op) (hbound : c.left ≤ bound) :
    operands op p bound c = .ok (more.map fun q => q.2) c' := by
  induction more generalizing bound c with
  | nil =>
    cases hts
    exact operands_of_ne hne _ _
  | cons q more ih =>
    rw [List.flatMap_cons, List.cons_append] at hts
    obtain ⟨hop, -, c₁, ha, hts⟩ := Cursor.reads_cons_iff.1 hts
    have hc₁ := Cursor.proper_of_advance hc ha
    have hleft := Cursor.left_of_advance hc (by simp [hop]) ha
    obtain ⟨c₂, hq, hmore⟩ := hts.split
    -- an operand ends at the next connective, the last one where the chain does
    have hends₂ : T.EndsBehind q.1 c₂.current.item := by
      cases more with
      | nil =>
        cases hmore
        exact hlast q rfl
      | cons q' more =>
        rw [List.flatMap_cons, List.cons_append] at hmore
        rw [(Cursor.reads_cons_iff.1 hmore).1]
        exact h.endsAt.endsBehind q.1
    have hlast' : ∀ q' ∈ more.getLast?, T.EndsBehind q'.1 c'.current.item := by
      intro q' hq'
      apply hlast q'
      rw [List.getLast?_cons, Option.mem_def.1 hq']
      rfl
    cases bound with
    | zero => omega
    | succ bound =>
      have hlen := hq.length_le hc₁
      have hbound' : c₂.left ≤ bound := by omega
      have hrest := ih (hq.proper hc₁) (fun q' hq' => hp q' (by simp [hq'])) hmore hlast' hbound'
      rw [operands, peek_bind, if_pos hop, bind_of_ok ha,
        bind_of_ok (hp q (by simp) c₁ c₂ hc₁ hq hends₂), bind_of_ok hrest]
      rfl

/-- Some operands are found as a chain of their connective. -/
theorem complete_flat {op : Connective} {operand : Nat → Parse Expr} (h : Connects K T op)
    {more : List (List Token × Expr)} (hder : Derives T ts e) (hfirst : Complete T operand ts e)
    (hne : more ≠ []) (hders : ∀ q ∈ more, Derives T q.1 q.2)
    (hmore : ∀ q ∈ more, Complete T operand q.1 q.2) :
    Complete K (flat op operand) (ts ++ more.flatMap fun q => .logical op :: q.1)
      (.logical op (e :: more.map fun q => q.2)) := by
  intro b c c' hc hts hends hcost
  rw [Expr.cost, Expr.maxCost_le_iff] at hcost
  obtain ⟨c₁, hc₁, hc'⟩ := hts.split
  have hop : c₁.current.item = .logical op := by
    cases more with
    | nil => exact absurd rfl hne
    | cons q more =>
      rw [List.flatMap_cons, List.cons_append] at hc'
      exact (Cursor.reads_cons_iff.1 hc').1
  have hends₁ : T.EndsBehind ts c₁.current.item := by
    rw [hop]
    exact h.endsAt.endsBehind ts
  -- with one more connective, or going on with the last operand, the chain would go on
  have hstop : c'.current.item ≠ .logical op := by
    intro hop'
    apply hends K (h.tier.2 hop') (Nat.le_refl _)
    rw [hop']
    have hviable : Viable T [] := (derives_nil T).viable [.nil] rfl
    exact h.viable hder hders hviable
  have hlast : ∀ q ∈ more.getLast?, T.EndsBehind q.1 c'.current.item := by
    intro q hq J hJ hle hviable
    have hrank := h.rank
    apply hends J hJ (by omega)
    obtain ⟨init, rfl⟩ := List.getLast?_eq_some_iff.1 hq
    have hchain := h.viable hder (fun q' hq' => hders q' (List.mem_append_left _ hq')) hviable
    simpa using hchain
  have hbound : c₁.left ≤ c₁.ahead.ahead.length + 1 := by
    unfold Cursor.left
    split <;> omega
  have hp : ∀ q ∈ more, ∀ c c', c.ahead.Proper → c.Reads q.1 c' →
      T.EndsBehind q.1 c'.current.item → operand b c = .ok q.2 c' :=
    fun q hq c₂ c₃ hc₂ hts₂ hends₂ => hmore q hq b c₂ c₃ hc₂ hts₂ hends₂
      (hcost q.2 (List.mem_cons_of_mem _ (List.mem_map_of_mem hq)))
  rw [flat, bind_of_ok (hfirst b c c₁ hc hc₁ hends₁ (hcost e (by simp))), peek_bind, if_pos hop,
    bind_eq_ok_iff]
  refine ⟨c₁, c₁, rfl, ?_⟩
  rw [bind_of_ok (operands_complete h (hc₁.proper hc) hp hc' hlast hstop hbound)]
  rfl

/-- A single operand is found as itself. -/
theorem complete_flat_single {op : Connective} {operand : Nat → Parse Expr} (h : Connects K T op)
    (hder : Derives T ts e) (hfirst : Complete T operand ts e) :
    Complete K (flat op operand) ts e := by
  intro b c c' hc hts hends hcost
  have hrank := h.rank
  have hends' : T.EndsBehind ts c'.current.item := fun J hJ hle hviable =>
    hends J hJ (by omega) (hviable.mono h.lift)
  apply flat_of_ne (hfirst b c c' hc hts hends' hcost)
  intro hop
  apply hends K (h.tier.2 hop) (Nat.le_refl _)
  have hviable : Viable T [] := (derives_nil T).viable [.nil] rfl
  have hchain := h.viable hder (List.forall_mem_nil _) hviable
  rw [hop]
  simpa using hchain

/-! ## Links -/

section

variable {nested : Nat → Parse Expr}

/-- Attributes and indices are the links of access chains. -/
theorem linksOf_access : LinksOf .access (accessLink nested) where
  tier h := by rcases accessLink_eq_some_iff.1 h with ⟨rfl, -⟩ | ⟨rfl, -⟩ <;> rfl
  viable h hder := by
    rcases accessLink_eq_some_iff.1 h with ⟨rfl, -⟩ | ⟨rfl, -⟩
    · exact (hder.field (.identifier "")).viable [.identifier ""] (by simp)
    · exact (hder.index (derives_nil .disjunction)).viable [.nil, .closeBracket] (by simp)

/-- Filters are the links of their chains. -/
theorem linksOf_filter : LinksOf .filtered filterLink where
  tier h := by
    obtain ⟨rfl, -⟩ := filterLink_eq_some_iff.1 h
    rfl
  viable h hder := by
    obtain ⟨rfl, -⟩ := filterLink_eq_some_iff.1 h
    exact (hder.filter "").viable [.identifier ""] (by simp)

/-- The operators of a tier are the links of its chains. -/
theorem linksOf_operator {node? : Token → Option (Expr → Expr → Expr)}
    {operand : Nat → Parse Expr} (h : Operators K T node?) :
    LinksOf K (operatorLink node? operand) where
  tier hl := by
    obtain ⟨node, hnode, -⟩ := Option.map_eq_some_iff.1 hl
    exact h.tier hnode
  viable hl hder := by
    obtain ⟨node, hnode, -⟩ := Option.map_eq_some_iff.1 hl
    exact h.viable hnode hder ((derives_nil T).viable [.nil] rfl)

/-- An attribute is a link. -/
theorem chainComplete_field {t : Token} {name : String} (hname : NamesAttribute t name)
    (hleft : ChainComplete .access (accessLink nested) first ts e) :
    ChainComplete .access (accessLink nested) first (ts ++ [.dot, t]) (.field e name) := by
  refine chainComplete_link hleft rfl rfl (by simp [Expr.links]) (Nat.le_max_right _ _)
    (Nat.le_max_left _ _) ?_
  intro b c c' _ hts _ _
  obtain ⟨-, -, c₁, ha, hts⟩ := Cursor.reads_cons_iff.1 hts
  obtain ⟨hitem, -, c₂, ha₂, hts⟩ := Cursor.reads_cons_iff.1 hts
  cases hts
  rw [bind_of_ok ha, peek_bind, hitem, namesAttribute_iff.1 hname]
  exact bind_of_ok ha₂

/-- A filter is a link. -/
theorem chainComplete_filter (name : String)
    (hleft : ChainComplete .filtered filterLink first ts e) :
    ChainComplete .filtered filterLink first (ts ++ [.pipe, .identifier name])
      (.filter e name []) := by
  refine chainComplete_link hleft rfl rfl (by simp [Expr.links]) (Nat.le_max_right _ _)
    (Nat.le_max_left _ _) ?_
  intro b c c' _ hts _ _
  obtain ⟨-, -, c₁, ha, hts⟩ := Cursor.reads_cons_iff.1 hts
  obtain ⟨hitem, -, c₂, ha₂, hts⟩ := Cursor.reads_cons_iff.1 hts
  cases hts
  rw [bind_of_ok ha, peek_bind, hitem]
  exact bind_of_ok ha₂

/-! ## Nested expressions -/

/-- What an expression costs inside another one. -/
theorem expression_of_complete (h : Complete .disjunction (disjunction expression) ts e) {b : Nat}
    {c c' : Cursor} (hc : c.ahead.Proper) (hts : c.Reads ts c')
    (hends : Tier.disjunction.EndsBehind ts c'.current.item) (hcost : e.cost < b) :
    expression b c = .ok e c' := by
  cases b with
  | zero => omega
  | succ n =>
    rw [expression_succ, within_eq_ok_iff]
    exact h n c c' hc hts hends (by omega)

/-- An index is a link. -/
theorem chainComplete_index {place : Expr}
    (hleft : ChainComplete .access (accessLink expression) first ts e)
    (hplace : Complete .disjunction (disjunction expression) us place) :
    ChainComplete .access (accessLink expression) first
      (ts ++ .openBracket :: (us ++ [.closeBracket])) (.index e place) := by
  have hcost : (Expr.index e place).cost = max e.cost (e.links .access + 1 + (1 + place.cost)) :=
    rfl
  apply chainComplete_link hleft rfl rfl (by simp [Expr.links]) (by omega) (by omega)
  intro b c c' hc hts _ hb
  obtain ⟨-, -, c₁, ha, hts⟩ := Cursor.reads_cons_iff.1 hts
  obtain ⟨c₂, hus, hts⟩ := hts.split
  obtain ⟨hitem, -, c₃, ha₃, hts⟩ := Cursor.reads_cons_iff.1 hts
  cases hts
  have hexpr : expression b c₁ = .ok place c₂ := by
    refine expression_of_complete hplace (Cursor.proper_of_advance hc ha) hus ?_ (by omega)
    exact (Tier.endsAt_of_tier?_eq_none (by rw [hitem]; rfl)).endsBehind _
  rw [bind_of_ok ha, bind_of_ok hexpr, bind_of_ok (expect_eq_ok_iff.2 ⟨hitem, ha₃⟩)]
  rfl

/-! ## Primary expressions -/

/-- A literal is found. -/
theorem complete_literal {t : Token} {v : Value} (hv : literal? t = some v) :
    Complete .primary (primary nested) [t] (.literal v) := by
  intro b c c' _ hts _ _
  obtain ⟨rfl, -, c₁, ha, hts⟩ := Cursor.reads_cons_iff.1 hts
  cases hts
  -- neither a name nor a parenthesis is a literal
  rcases primary_cases nested b c with ⟨v', hv', h⟩ | ⟨name, hname, -⟩ | ⟨hopen, -⟩ | ⟨hnone, -⟩
  · rw [hv, Option.some.injEq] at hv'
    rw [h, bind_of_ok ha, hv']
    rfl
  · rw [hname] at hv
    unfold literal? at hv
    simp at hv
  · rw [hopen] at hv
    unfold literal? at hv
    simp at hv
  · simp [hnone] at hv

/-- A variable is found. -/
theorem complete_var (name : String) :
    Complete .primary (primary nested) [.identifier name] (.var name) := by
  intro b c c' _ hts _ _
  obtain ⟨hitem, -, c₁, ha, hts⟩ := Cursor.reads_cons_iff.1 hts
  cases hts
  rw [primary, peek_bind, hitem]
  exact bind_of_ok ha

/-- A group is found if its inside is. -/
theorem complete_group (h : Complete .disjunction (disjunction expression) ts e) :
    Complete .primary (primary expression) (.openParen :: (ts ++ [.closeParen])) (.group e) := by
  intro b c c' hc hts _ hb
  have hcost : (Expr.group e).cost = 1 + e.cost := rfl
  obtain ⟨hopen, -, c₁, ha, hts⟩ := Cursor.reads_cons_iff.1 hts
  obtain ⟨c₂, hus, hts⟩ := hts.split
  obtain ⟨hitem, -, c₃, ha₃, hts⟩ := Cursor.reads_cons_iff.1 hts
  cases hts
  have hexpr : expression b c₁ = .ok e c₂ := by
    refine expression_of_complete h (Cursor.proper_of_advance hc ha) hus ?_ (by omega)
    exact (Tier.endsAt_of_tier?_eq_none (by rw [hitem]; rfl)).endsBehind _
  rw [primary, peek_bind, hopen]
  show (advance >>= fun _ => _) c = _
  rw [bind_of_ok ha, bind_of_ok hexpr, bind_of_ok (expect_eq_ok_iff.2 ⟨hitem, ha₃⟩)]
  rfl

end

/-! ## All tiers -/

/-- What is shown of a derivation, tier by tier. -/
def Completes : Tier → List Token → Expr → Prop
  | .primary => Complete .primary (primary expression)
  | .access => ChainComplete .access (accessLink expression) (primary expression)
  | .filtered => ChainComplete .filtered filterLink (access expression)
  | .ordering => ChainComplete .ordering (operatorLink orderNode? (filtered expression))
      (filtered expression)
  | .equality => ChainComplete .equality (operatorLink equalityNode? (ordering expression))
      (ordering expression)
  | .containment => ChainComplete .containment
      (operatorLink containmentNode? (equality expression)) (equality expression)
  | .conjunction => Complete .conjunction (conjunction expression)
  | .disjunction => Complete .disjunction (disjunction expression)

/-- Expressions with attributes and indices are found. -/
theorem complete_access (hder : Derives .access ts e) (h : Completes .access ts e) :
    Complete .access (access expression) ts e :=
  complete_of_chainComplete linksOf_access hder h

/-- Expressions with filters are found. -/
theorem complete_filtered (hder : Derives .filtered ts e) (h : Completes .filtered ts e) :
    Complete .filtered (filtered expression) ts e :=
  complete_of_chainComplete linksOf_filter hder h

/-- Chains that ask for an order are found. -/
theorem complete_ordering (hder : Derives .ordering ts e) (h : Completes .ordering ts e) :
    Complete .ordering (ordering expression) ts e :=
  complete_of_chainComplete (linksOf_operator operators_order) hder h

/-- Chains that ask for equality are found. -/
theorem complete_equality (hder : Derives .equality ts e) (h : Completes .equality ts e) :
    Complete .equality (equality expression) ts e :=
  complete_of_chainComplete (linksOf_operator operators_equality) hder h

/-- Chains of `contains` are found. -/
theorem complete_containment (hder : Derives .containment ts e) (h : Completes .containment ts e) :
    Complete .containment (containment expression) ts e :=
  complete_of_chainComplete (linksOf_operator operators_containment) hder h

/-- What is shown of a derivation holds of all of them. -/
theorem completes (h : Derives T ts e) : Completes T ts e := by
  induction h with
  | integer | float | string | boolean | nil => exact complete_literal rfl
  | var name => exact complete_var name
  | group _ ih => exact complete_group ih
  | ofPrimary h ih => exact chainComplete_of_complete rfl .ofPrimary h ih
  | field _ hname ih => exact chainComplete_field hname ih
  | index _ _ ih ihp => exact chainComplete_index ih ihp
  | ofAccess h ih => exact chainComplete_of_complete rfl .ofAccess h (complete_access h ih)
  | filter _ name ih => exact chainComplete_filter name ih
  | ofFiltered h ih => exact chainComplete_of_complete rfl .ofFiltered h (complete_filtered h ih)
  | @order _ _ _ _ op h hop hr ih ihr =>
    exact chainComplete_operator operators_order
      (orderNode?_eq_some_iff.2 ⟨op, hop, rfl, rfl⟩) h ih (complete_filtered hr ihr)
  | ofOrdering h ih => exact chainComplete_of_complete rfl .ofOrdering h (complete_ordering h ih)
  | @equal _ _ _ _ op h hop hr ih ihr =>
    exact chainComplete_operator operators_equality
      (equalityNode?_eq_some_iff.2 ⟨op, hop, rfl, rfl⟩) h ih (complete_ordering hr ihr)
  | ofEquality h ih => exact chainComplete_of_complete rfl .ofEquality h (complete_equality h ih)
  | contains h hr ih ihr =>
    exact chainComplete_operator operators_containment rfl h ih (complete_equality hr ihr)
  | ofContainment h ih => exact complete_flat_single connects_and h (complete_containment h ih)
  | and h more hne hmore ih ihmore =>
    exact complete_flat connects_and h (complete_containment h ih) hne hmore
      fun q hq => complete_containment (hmore q hq) (ihmore q hq)
  | ofConjunction h ih => exact complete_flat_single connects_or h ih
  | or h more hne hmore ih ihmore => exact complete_flat connects_or h ih hne hmore ihmore

/-- Every expression of the grammar is found where it stands, if none goes on with the token behind
it and the budget covers its cost. -/
theorem expression_of_endsBehind (h : Derives .disjunction ts e) {b : Nat} {c c' : Cursor}
    (hc : c.ahead.Proper) (hts : c.Reads ts c')
    (hends : Tier.disjunction.EndsBehind ts c'.current.item) (hcost : e.cost < b) :
    expression b c = .ok e c' :=
  expression_of_complete (completes h) hc hts hends hcost

/-- Every expression of the grammar is found in front of a token with which none goes on. -/
theorem expression_of_derives (h : Derives .disjunction ts e) {b : Nat} {c c' : Cursor}
    (hc : c.ahead.Proper) (hts : c.Reads ts c')
    (hends : Tier.disjunction.EndsAt c'.current.item) (hcost : e.cost < b) :
    expression b c = .ok e c' :=
  expression_of_endsBehind h hc hts (hends.endsBehind ts) hcost

end Parse

/-! ## Cursors over tokens -/

namespace Cursor

/-- A cursor over the tokens and the end behind them. -/
def ofTokens : List Token → Cursor
  | [] => ⟨⟨.endOfSource, .start⟩, ⟨[], .ok ⟨.endOfSource, .start⟩⟩⟩
  | t :: ts =>
    ⟨⟨t, .start⟩, ⟨ts.map fun u => .ok ⟨u, .start⟩, .ok ⟨.endOfSource, .start⟩⟩⟩

variable {ts us : List Token}

/-- The next token of a list is the one behind the first. -/
theorem advance_ofTokens (t : Token) (ts : List Token) :
    Parse.advance (ofTokens (t :: ts)) = .ok () (ofTokens ts) := by
  cases ts <;> rfl

/-- Over tokens of which none is the end, the end comes behind all of them. -/
theorem proper_ofTokens (h : ∀ t ∈ ts, t ≠ .endOfSource) : (ofTokens ts).ahead.Proper := by
  cases ts with
  | nil =>
    refine ⟨by simp [ofTokens], ?_⟩
    rintro t ⟨⟩
    rfl
  | cons t ts =>
    constructor
    · intro u hu
      obtain ⟨v, hv, hvu⟩ := List.mem_map.1 hu
      obtain rfl := Except.ok.inj hvu
      exact h v (List.mem_cons_of_mem t hv)
    · rintro u ⟨⟩
      rfl

/-- The tokens at the front of a list are read. -/
theorem reads_ofTokens (us : List Token) (h : ∀ t ∈ ts, t ≠ .endOfSource) :
    (ofTokens (ts ++ us)).Reads ts (ofTokens us) := by
  induction ts with
  | nil => exact .refl _
  | cons t ts ih =>
    rw [reads_cons_iff]
    refine ⟨rfl, h t (by simp), ofTokens (ts ++ us), advance_ofTokens t _, ?_⟩
    exact ih fun u hu => h u (List.mem_cons_of_mem t hu)

end Cursor

/-! ## Uniqueness -/

/-- Over the tokens of an expression the parser gets to the end, within large enough budgets. -/
theorem Parse.expression_ofTokens {b : Nat} {ts : List Token} {e : Expr}
    (h : Derives .disjunction ts e) (hcost : e.cost < b) :
    expression b (.ofTokens ts) = .ok e (.ofTokens []) := by
  have hts := Cursor.reads_ofTokens [] h.ne_endOfSource
  rw [List.append_nil] at hts
  exact expression_of_derives h (Cursor.proper_ofTokens h.ne_endOfSource) hts
    (Tier.endsAt_endOfSource _) hcost

/-- The tokens are no more than one expression. -/
theorem Derives.unique {ts : List Token} {e e' : Expr} (h : Derives .disjunction ts e)
    (h' : Derives .disjunction ts e') : e = e' := by
  -- within a budget for both the parser has only one answer
  have hrun := Parse.expression_ofTokens h (Nat.lt_add_of_pos_right e'.cost.succ_pos)
  rw [Parse.expression_ofTokens h' (by omega), EStateM.Result.ok.injEq] at hrun
  exact hrun.1.symm

end TemplateExpr
