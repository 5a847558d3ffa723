/-
# How high a tree can get within a limit

A limit bounds the cost of an expression, and neither its depth nor its nesting: on every tier a
chain with as many links as there is budget can stand on such a chain of the tier before, and a
group around all of them makes a primary expression for the next storey.  So the bound for the
height that follows from the cost is reached.

Main statements:
* `tall_links`: a chain as long as the budget is as high as the ceiling;
* `exists_tall`: every budget has an expression as high as the ceiling;
* `depth_within_limit`, `nesting_within_limit`: how deep and how nested a parsed tree can be.
-/
import TemplateExpr.Proofs.Grammar.Height
import TemplateExpr.Proofs.Grammar.Operators
import TemplateExpr.Proofs.Parsing.Source
import TemplateExpr.Proofs.Source.Spelling

namespace TemplateExpr

/-! ## Tall expressions -/

/-- The spellings are an expression of the tier that costs all of the budget and is as high as the
ceiling. -/
structure Tall (T : Tier) (b : Nat) (ws : List (List Char × Token)) (e : Expr) : Prop where
  spells : ∀ w ∈ ws, Spells w.1 w.2
  derives : Derives T (ws.map Prod.snd) e
  cost : e.cost = b
  height : ∀ flat, e.height flat = e.links T + T.ceiling flat b

/-- The spellings, behind an expression of the tier, make one link more of it. -/
structure Extends (K : Tier) (us : List (List Char × Token)) (node : Expr → Expr) : Prop where
  spells : ∀ w ∈ us, Spells w.1 w.2
  derives : ∀ {ts e}, Derives K ts e → Derives K (ts ++ us.map Prod.snd) (node e)
  links : ∀ e : Expr, (node e).links K = e.links K + 1
  cost : ∀ e : Expr, (node e).cost = max e.cost (e.links K + 1)
  height : ∀ flat (e : Expr), 1 ≤ e.height flat → (node e).height flat = 1 + e.height flat

variable {K T : Tier} {b : Nat} {ws us : List (List Char × Token)} {e : Expr} {node : Expr → Expr}

/-- The greatest height of a primary expression is one at least. -/
theorem peak_pos (flat b : Nat) : 1 ≤ peak flat b := peak_mono flat (Nat.zero_le b)

/-- The ceiling of every tier is one at least. -/
theorem ceiling_pos (flat : Nat) (T : Tier) (b : Nat) : 1 ≤ T.ceiling flat b := by
  have hpeak := peak_pos flat b
  cases T <;> simp only [Tier.ceiling] <;> omega

/-- A link more, as long as there is budget for it. -/
theorem tall_link (h : Extends K us node) (ht : Tall K b ws e) (hlt : e.links K < b) :
    Tall K b (ws ++ us) (node e) where
  spells := by
    intro w hw
    rcases List.mem_append.1 hw with hw | hw
    · exact ht.spells w hw
    · exact h.spells w hw
  derives := by
    rw [List.map_append]
    exact h.derives ht.derives
  cost := by
    rw [h.cost, ht.cost]
    omega
  height := by
    intro flat
    have hheight := ht.height flat
    have hceiling := ceiling_pos flat K b
    rw [h.height flat e (by omega), h.links]
    omega

/-- All links that there is budget for. -/
theorem tall_links (h : Extends K us node) (ht : Tall K b ws e) (hzero : e.links K = 0) :
    ∃ vs e', Tall K b vs e' ∧ e'.links K = b := by
  have hall : ∀ n ≤ b, ∃ vs e', Tall K b vs e' ∧ e'.links K = n := by
    intro n hn
    induction n with
    | zero => exact ⟨ws, e, ht, hzero⟩
    | succ n ih =>
      obtain ⟨vs, e', ht', hlinks⟩ := ih (by omega)
      exact ⟨vs ++ us, node e', tall_link h ht' (by omega), by rw [h.links, hlinks]⟩
  exact hall b (Nat.le_refl b)

/-- The full chain of the next tier, on an expression that has all the links of its own tier. -/
theorem tall_chain (h : Extends K us node) (ht : Tall T b ws e) (hlt : T.rank < K.rank)
    (hlift : ∀ {ts e}, Derives T ts e → Derives K ts e)
    (hceiling : ∀ flat, K.ceiling flat b = e.links T + T.ceiling flat b) :
    ∃ vs e', Tall K b vs e' ∧ e'.links K = b := by
  have hzero : e.links K = 0 := ht.derives.links_eq_zero hlt
  refine tall_links h ⟨ht.spells, hlift ht.derives, ht.cost, ?_⟩ hzero
  intro flat
  rw [hzero, Nat.zero_add, hceiling, ht.height]

/-! ## Links -/

/-- The spelling of a name. -/
def nameSpelling : List Char × Token := (['a'], .identifier "a")

/-- The name is spelled as it is. -/
theorem spells_name : Spells nameSpelling.1 nameSpelling.2 :=
  spells_word (by decide) (by simp)

/-- The name is an expression of every tier. -/
theorem derives_name (T : Tier) : Derives T [.identifier "a"] (.var "a") := by
  cases T <;> repeat constructor

/-- A spelling with the name behind it is spelled as it is. -/
theorem spells_pair {cs : List Char} {t : Token} (h : Spells cs t) :
    ∀ w ∈ [(cs, t), nameSpelling], Spells w.1 w.2 := by
  simpa using ⟨h, spells_name⟩

/-- An attribute is a link of its chain. -/
theorem extends_field : Extends .access [(['.'], .dot), nameSpelling] (.field · "a") where
  spells := spells_pair (spells_symbol (by decide))
  derives h := h.field (.identifier "a")
  links _ := rfl
  cost _ := rfl
  height _ _ _ := rfl

/-- A filter is a link of its chain. -/
theorem extends_filter : Extends .filtered [(['|'], .pipe), nameSpelling] (.filter · "a" []) where
  spells := spells_pair (spells_symbol (by decide))
  derives h := h.filter "a"
  links _ := rfl
  cost _ := rfl
  height flat e _ := by simp [Expr.height, Expr.maxHeight]

/-- An operator with a name for its right operand. -/
theorem extends_operator {node? : Token → Option (Expr → Expr → Expr)} {t : Token}
    {node : Expr → Expr → Expr} {cs : List Char} (h : Parse.Operators K T node?)
    (hnode : node? t = some node) (hspells : Spells cs t)
    (hheight : ∀ flat e, (node e (.var "a")).height flat = 1 + max (e.height flat) 1) :
    Extends K [(cs, t), nameSpelling] (node · (.var "a")) where
  spells := spells_pair hspells
  derives hleft := h.derives hnode hleft (derives_name T)
  links _ := h.links hnode
  cost _ := h.cost hnode
  height flat e hpos := by rw [hheight, Nat.max_eq_left hpos]

/-- A comparison for an order is a link of its chain. -/
theorem extends_order : Extends .ordering [(['<'], .compare .less), nameSpelling]
    (.compare .less · (.var "a")) :=
  extends_operator Parse.operators_order rfl (spells_symbol (by decide)) fun _ _ => rfl

/-- An equation is a link of its chain. -/
theorem extends_equal : Extends .equality [(['=', '='], .compare .equal), nameSpelling]
    (.compare .equal · (.var "a")) :=
  extends_operator Parse.operators_equality rfl (spells_symbol (by decide)) fun _ _ => rfl

/-- A containment is a link of its chain. -/
theorem extends_contains : Extends .containment
    [("contains".toList, .contains), nameSpelling] (.contains · (.var "a")) :=
  extends_operator Parse.operators_containment rfl (spells_keyword (by decide)) fun _ _ => rfl

/-! ## Storeys -/

/-- The full chains of all tiers on top of each other. -/
theorem tall_containment (ht : Tall .primary b ws e) :
    ∃ vs e', Tall .containment b vs e' ∧ e'.links .containment = b := by
  have hzero : e.links .primary = 0 := Expr.links_eq_zero_of_rank (.inl rfl) e
  obtain ⟨ws₁, e₁, h₁, hlinks₁⟩ := tall_chain extends_field ht (by decide) .ofPrimary
    fun flat => by simp only [Tier.ceiling]; omega
  obtain ⟨ws₂, e₂, h₂, hlinks₂⟩ := tall_chain extends_filter h₁ (by decide) .ofAccess
    fun flat => by simp only [Tier.ceiling]; omega
  obtain ⟨ws₃, e₃, h₃, hlinks₃⟩ := tall_chain extends_order h₂ (by decide) .ofFiltered
    fun flat => by simp only [Tier.ceiling]; omega
  obtain ⟨ws₄, e₄, h₄, hlinks₄⟩ := tall_chain extends_equal h₃ (by decide) .ofOrdering
    fun flat => by simp only [Tier.ceiling]; omega
  exact tall_chain extends_contains h₄ (by decide) .ofEquality
    fun flat => by simp only [Tier.ceiling]; omega

/-- A connective with a name for its second operand adds its level. -/
theorem tall_connective {op : Connective} (h : Parse.Connects K T op) (ht : Tall T b ws e)
    (hspells : Spells op.word.toList (.logical op))
    (hceiling : ∀ flat, K.ceiling flat b = flat + (e.links T + T.ceiling flat b)) :
    ∃ vs e', Tall K b vs e' ∧ e'.links K = 0 := by
  refine ⟨ws ++ [(op.word.toList, .logical op), nameSpelling], .logical op [e, .var "a"],
    ⟨?_, ?_, ?_, ?_⟩, rfl⟩
  · intro w hw
    rcases List.mem_append.1 hw with hw | hw
    · exact ht.spells w hw
    · exact spells_pair hspells w hw
  · have hmore : ∀ p ∈ [([Token.identifier "a"], Expr.var "a")], Derives T p.1 p.2 := by
      simpa using derives_name T
    have hder := h.derives ht.derives (by simp) hmore
    simpa [nameSpelling] using hder
  · simp only [Expr.cost, Expr.maxCost, ht.cost]
    omega
  · intro flat
    have hpos := ceiling_pos flat T b
    have hheight := ht.height flat
    rw [hceiling]
    simp only [Expr.height, Expr.maxHeight, Expr.links]
    omega

/-- On a primary expression a whole storey can be built. -/
theorem tall_disjunction (ht : Tall .primary b ws e) : ∃ vs e', Tall .disjunction b vs e' := by
  obtain ⟨ws₁, e₁, h₁, hlinks₁⟩ := tall_containment ht
  obtain ⟨ws₂, e₂, h₂, hlinks₂⟩ := tall_connective Parse.connects_and h₁
    (spells_keyword (by decide)) fun flat => by simp only [Tier.ceiling]; omega
  obtain ⟨ws₃, e₃, h₃, -⟩ := tall_connective Parse.connects_or h₂
    (spells_keyword (by decide)) fun flat => by simp only [Tier.ceiling]; omega
  exact ⟨ws₃, e₃, h₃⟩

/-- Parentheses begin the next storey. -/
theorem tall_group (ht : Tall .disjunction b ws e) : ∃ vs e', Tall .primary (b + 1) vs e' := by
  refine ⟨(['('], .openParen) :: (ws ++ [([')'], .closeParen)]), .group e, ?_, ?_, ?_, ?_⟩
  · have hopen : Spells ['('] .openParen := spells_symbol (by decide)
    have hclose : Spells [')'] .closeParen := spells_symbol (by decide)
    simpa [or_imp, forall_and] using ⟨hopen, fun cs t => ht.spells (cs, t), hclose⟩
  · simpa using ht.derives.group
  · rw [Expr.cost, ht.cost, Nat.add_comm]
  · intro flat
    have hheight := ht.height flat
    rw [Expr.links_eq_zero_of_rank (.inr (by decide))] at hheight
    simp only [Expr.height, Expr.links, Tier.ceiling, peak] at hheight ⊢
    omega

/-- Every budget has an expression as high as the ceiling. -/
theorem exists_tall (b : Nat) : ∃ ws e, Tall .disjunction b ws e := by
  -- every level of the budget is the group around a storey
  have hprimary : ∃ ws e, Tall .primary b ws e := by
    induction b with
    | zero =>
      refine ⟨[nameSpelling], .var "a", ?_, .var "a", rfl, fun _ => rfl⟩
      simpa using spells_name
    | succ b ih =>
      obtain ⟨ws, e, ht⟩ := ih
      obtain ⟨vs, e', ht'⟩ := tall_disjunction ht
      exact tall_group ht'
  obtain ⟨ws, e, ht⟩ := hprimary
  exact tall_disjunction ht

/-! ## Parsed trees -/

/-- Within every limit but zero a tree of the greatest height is parsed. -/
theorem exists_parseWithin_eq_ok {limit : Nat} (h : 1 ≤ limit) :
    ∃ source e, parseWithin limit source = .ok e ∧
      ∀ flat, 2 * e.height flat + 3 * limit = limit * (5 * limit + 4 * flat) := by
  obtain ⟨b, rfl⟩ : ∃ b, limit = b + 1 := ⟨limit - 1, by omega⟩
  obtain ⟨ws, e, ht⟩ := exists_tall b
  obtain ⟨ts, htokens, hitems⟩ := tokensOf_spaced ht.spells
  refine ⟨String.ofList (spaced ws), e, ?_, ?_⟩
  · have hcost := ht.cost
    refine parseWithin_eq_ok_iff.2 ⟨ts, htokens, ?_, by omega⟩
    rw [hitems]
    exact ht.derives
  · intro flat
    rw [ht.height, Expr.links_eq_zero_of_rank (.inr (by decide)), Nat.zero_add,
      ceiling_disjunction]

/-- The height of an expression that is parsed grows no faster than the square of the limit. -/
theorem height_of_parseWithin {limit : Nat} {source : String} {e : Expr}
    (h : parseWithin limit source = .ok e) (flat : Nat) :
    2 * e.height flat + 3 * limit ≤ limit * (5 * limit + 4 * flat) := by
  obtain ⟨ts, -, hder, hcost⟩ := parseWithin_eq_ok_iff.1 h
  exact hder.height_bound flat hcost

/-- A filter behind an attribute is parsed within two levels, since neither chain has more than one
link. -/
theorem parseWithin_two_filtered :
    parseWithin 2 "a.b|f" = .ok (.filter (.field (.var "a") "b") "f" []) := by
  have htokens : tokensOf "a.b|f" = .ok [⟨.identifier "a", ⟨0, 1, 1⟩⟩, ⟨.dot, ⟨1, 1, 2⟩⟩,
      ⟨.identifier "b", ⟨2, 1, 3⟩⟩, ⟨.pipe, ⟨3, 1, 4⟩⟩, ⟨.identifier "f", ⟨4, 1, 5⟩⟩] := by cbv
  have hfield := (Derives.ofPrimary (.var "a")).field (.identifier "b")
  have hfilter := (Derives.ofAccess hfield).filter "f"
  exact parseWithin_eq_ok_iff.2 ⟨_, htokens,
    .ofConjunction (.ofContainment (.ofEquality (.ofOrdering (.ofFiltered hfilter)))), by decide⟩

/-! ## Depth -/

/-- How deep a parsed tree can be: the bound is quadratic in the limit, and it is reached. -/
theorem depth_within_limit :
    (∀ limit source e, parseWithin limit source = .ok e →
      e.depth ≤ limit * (5 * limit + 1) / 2) ∧
    ∀ limit, 1 ≤ limit → ∃ source e, parseWithin limit source = .ok e ∧
      e.depth = limit * (5 * limit + 1) / 2 := by
  have hsplit : ∀ limit : Nat,
      limit * (5 * limit + 4 * 1) = limit * (5 * limit + 1) + 3 * limit := by
    intro limit
    ring
  constructor
  · intro limit source e h
    have hle := height_of_parseWithin h 1
    rw [hsplit, Expr.height_one] at hle
    omega
  · intro limit hlimit
    obtain ⟨source, e, hrun, hheight⟩ := exists_parseWithin_eq_ok hlimit
    refine ⟨source, e, hrun, ?_⟩
    have heq := hheight 1
    rw [hsplit, Expr.height_one] at heq
    omega

/-- Within two levels no tree is deeper than eleven, and within one level some tree has depth
three. -/
theorem depth_within_limit_two :
    (Expr.filter (.field (.var "a") "b") "f" []).depth ≤ 11 ∧
      ∃ source e, parseWithin 1 source = .ok e ∧ e.depth = 3 :=
  ⟨depth_within_limit.1 2 "a.b|f" _ parseWithin_two_filtered, depth_within_limit.2 1 (by decide)⟩

/-! ## Nesting -/

/-- No expression that is parsed is nested deeper than the square of the limit allows. -/
theorem two_mul_nesting_le {limit : Nat} {source : String} {e : Expr}
    (h : parseWithin limit source = .ok e) : 2 * e.nesting + 3 * limit ≤ limit * (5 * limit) :=
  height_of_parseWithin h 0

/-- With each limit some source is nested as deeply as the limit allows. -/
theorem exists_two_mul_nesting_eq {limit : Nat} (h : 1 ≤ limit) :
    ∃ source e, parseWithin limit source = .ok e ∧
      2 * e.nesting + 3 * limit = limit * (5 * limit) := by
  obtain ⟨source, e, hrun, hheight⟩ := exists_parseWithin_eq_ok h
  exact ⟨source, e, hrun, hheight 0⟩

/-- Only within one level no tree at all is nested more deeply than its limit. -/
theorem nesting_le_limit_iff (limit : Nat) :
    (∀ source e, parseWithin limit source = .ok e → e.nesting ≤ limit) ↔ limit ≤ 1 := by
  constructor
  · intro hall
    by_cases hle : limit ≤ 1
    · exact hle
    · -- from two levels on the bound that is reached is above the limit
      obtain ⟨source, e, hrun, heq⟩ := exists_two_mul_nesting_eq (show 1 ≤ limit by omega)
      have hnesting := hall source e hrun
      have hmul : limit * 10 ≤ limit * (5 * limit) := Nat.mul_le_mul_left limit (by omega)
      omega
  · intro hle source e hrun
    have hmul : limit * (5 * limit) ≤ limit * 5 := Nat.mul_le_mul_left limit (by omega)
    have htwice := two_mul_nesting_le hrun
    omega

/-- When a limit bounds the nesting of a parsed tree.  The limit is for the cost, so it does unless
it is between the cost and the nesting of the tree that the source is; it does for all sources only
if it is at most one.  In general the nesting is at most quadratic in the limit, and this bound is
reached. -/
theorem nesting_within_limit (limit : Nat) (source : String) :
    ((∀ e, parseWithin limit source = .ok e → e.nesting ≤ limit) ↔
      ∀ ts e, tokensOf source = .ok ts → Derives .disjunction (ts.map Located.item) e →
        limit ≤ e.cost ∨ e.nesting ≤ limit) ∧
    ((∀ source e, parseWithin limit source = .ok e → e.nesting ≤ limit) ↔ limit ≤ 1) ∧
    (∀ e, parseWithin limit source = .ok e → e.nesting ≤ limit * (5 * limit - 3) / 2) ∧
    (1 ≤ limit → ∃ source e, parseWithin limit source = .ok e ∧
      e.nesting = limit * (5 * limit - 3) / 2) := by
  refine ⟨?_, nesting_le_limit_iff limit, ?_, ?_⟩
  · constructor
    · intro hall ts e hts hder
      by_cases hle : limit ≤ e.cost
      · left; exact hle
      · right
        exact hall e (parseWithin_eq_ok_iff.2 ⟨ts, hts, hder, by omega⟩)
    · intro hall e hrun
      obtain ⟨ts, hts, hder, hcost⟩ := parseWithin_eq_ok_iff.1 hrun
      rcases hall ts e hts hder with hle | hle
      · omega
      · exact hle
  · intro e hrun
    have htwice := two_mul_nesting_le hrun
    rw [Nat.mul_sub]
    omega
  · intro hlimit
    obtain ⟨source, e, hrun, heq⟩ := exists_two_mul_nesting_eq hlimit
    refine ⟨source, e, hrun, ?_⟩
    rw [Nat.mul_sub]
    omega

/-- The limit does not bound the nesting. -/
theorem not_nesting_le_limit :
    ¬ ∀ limit source e, parseWithin limit source = .ok e → e.nesting ≤ limit := by
  intro h
  have hle := h 2 "a.b|f" _ parseWithin_two_filtered
  revert hle
  decide

/-- Behind an attribute a filter makes three nested nodes at the cost of one level, so two levels do not
bound them; within two levels seven nodes can be nested. -/
theorem nesting_within_limit_filtered :
    (¬ ∀ ts e, tokensOf "a.b|f" = .ok ts → Derives .disjunction (ts.map Located.item) e →
      2 ≤ e.cost ∨ e.nesting ≤ 2) ∧
    ∃ source e, parseWithin 2 source = .ok e ∧ e.nesting = 7 := by
  refine ⟨?_, (nesting_within_limit 2 "a.b|f").2.2.2 (by decide)⟩
  intro h
  have hle := (nesting_within_limit 2 "a.b|f").1.2 h _ parseWithin_two_filtered
  revert hle
  decide

end TemplateExpr
