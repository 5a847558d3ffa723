/-
# What a parser spends

A level is only entered where a token is taken for it: each group has its parenthesis, and each link
has its token behind an operand.  So a parser that gives up has entered, apart from the level of
the expression itself, no more levels than it has taken tokens.

Main statements:
* `spends_bind`: the tokens of the first part pay for a level of the second one;
* `spends_links`: each link pays for its level with its own token;
* `spends_disjunction`: all tiers over a parser for nested expressions;
* `entered_add_left_le`: expressions.
-/
import TemplateExpr.Expr.Nesting
import TemplateExpr.Proofs.Parsing.Reads

namespace TemplateExpr

namespace Parse

variable {α β : Type} {j k k' : Nat}

/-- Where the parser succeeds it has taken `j` tokens at least, and where it gives up it has entered
at most `k` levels more than it has taken tokens. -/
structure Spends (j k : Nat) (p : Parse α) (c : Cursor) : Prop where
  ok : ∀ {a c'}, p c = .ok a c' → c'.ahead.Proper ∧ c'.left + j ≤ c.left
  error : ∀ {s n c'}, p c = .error ⟨s, n⟩ c' → n + c'.left ≤ c.left + k

variable {p q : Parse α} {f : α → Parse β} {c : Cursor}

/-- Parsers that do the same at a cursor spend the same there. -/
theorem Spends.of_eq (hq : Spends j k q c) (h : p c = q c) : Spends j k p c :=
  ⟨fun hrun => hq.ok (h ▸ hrun), fun hrun => hq.error (h ▸ hrun)⟩

/-- Nothing has to be said of the tokens that are taken. -/
theorem Spends.zero (h : Spends j k p c) : Spends 0 k p c where
  ok hrun := by
    obtain ⟨hproper, hleft⟩ := h.ok hrun
    exact ⟨hproper, by omega⟩
  error := h.error

/-! ## Sequences of parsers -/

/-- An answer without reading spends nothing. -/
theorem spends_pure (a : α) (hc : c.ahead.Proper) : Spends 0 k (pure a) c where
  ok h := by
    obtain ⟨-, rfl⟩ := pure_eq_ok_iff.1 h
    exact ⟨hc, Nat.le_refl _⟩
  error h := absurd h pure_ne_error

/-- Giving up spends nothing. -/
theorem spends_stop (s : Stop) (c : Cursor) : Spends j k (stop s : Parse α) c where
  ok h := by simp [stop_run] at h
  error h := by
    simp only [stop_run, EStateM.Result.error.injEq, Failure.mk.injEq] at h
    obtain ⟨⟨-, rfl⟩, rfl⟩ := h
    omega

/-- A level that there is no budget for is one level. -/
theorem spends_enterTooDeep (c : Cursor) : Spends j 1 (enterTooDeep : Parse α) c where
  ok h := by simp [enterTooDeep_run] at h
  error h := by
    simp only [enterTooDeep_run, EStateM.Result.error.injEq, Failure.mk.injEq] at h
    obtain ⟨⟨-, rfl⟩, rfl⟩ := h
    omega

/-- A cursor that keeps its token has no more in front of it than before. -/
theorem left_tail_le (c : Cursor) : Cursor.left ⟨c.current, c.ahead.tail⟩ ≤ c.left := by
  have hlength : c.ahead.tail.ahead.length ≤ c.ahead.ahead.length := by
    simp [TokenStream.tail]
  simp only [Cursor.left]
  split <;> omega

/-- Moving on takes a token. -/
theorem spends_advance (hc : c.ahead.Proper) (hne : c.current.item ≠ .endOfSource) :
    Spends 1 k advance c where
  ok h := ⟨Cursor.proper_of_advance hc h, Cursor.left_of_advance hc hne h⟩
  error h := by
    obtain ⟨e, -, hf, rfl⟩ := advance_eq_error_iff.1 h
    obtain ⟨-, rfl⟩ := Failure.mk.inj hf
    have hleft := left_tail_le c
    omega

/-- The tokens that the first part takes pay for levels of the second one. -/
theorem spends_bind (hp : Spends j k p c)
    (h : ∀ {a c₁}, c₁.ahead.Proper → Spends 0 k' (f a) c₁) (hk : k' ≤ j + k) :
    Spends j k (p >>= f) c where
  ok hrun := by
    obtain ⟨a, c₁, hpc, hfc⟩ := bind_eq_ok_iff.1 hrun
    obtain ⟨hc₁, hleft⟩ := hp.ok hpc
    obtain ⟨hproper, hleft'⟩ := (h hc₁).ok hfc
    exact ⟨hproper, by omega⟩
  error hrun := by
    rcases bind_eq_error_iff.1 hrun with hpc | ⟨a, c₁, hpc, hfc⟩
    · exact hp.error hpc
    · obtain ⟨hc₁, hleft⟩ := hp.ok hpc
      have hentered := (h hc₁).error hfc
      omega

/-- Looking at the token under the cursor spends nothing. -/
theorem spends_peek {f : Token → Parse β} (h : Spends j k (f c.current.item) c) :
    Spends j k (peek >>= f) c :=
  h.of_eq (peek_bind _ _)

/-- A token that is asked for is taken. -/
theorem spends_expect (hc : c.ahead.Proper) {token : Token} (hne : token ≠ .endOfSource)
    (wanted : Expectation) : Spends 1 k (expect token wanted) c := by
  refine spends_peek ?_
  split
  · rename_i hitem
    exact spends_advance hc (by rwa [hitem])
  · exact spends_stop _ c

/-- A level is one more that is entered where the parser gives up. -/
theorem spends_within (h : Spends j k p c) : Spends j (k + 1) (within p) c where
  ok hrun := h.ok (within_eq_ok_iff.1 hrun)
  error hrun := by
    obtain ⟨m, hpc, rfl⟩ := within_eq_error_iff.1 hrun
    have hentered := h.error hpc
    omega

/-! ## Chains -/

/-- Whatever its budget and wherever it begins, the parser takes a token, and it enters at most `k`
levels more than it takes tokens. -/
def SpendsTokens (k : Nat) (p : Nat → Parse Expr) : Prop :=
  ∀ (b : Nat) ⦃c : Cursor⦄, c.ahead.Proper → Spends 1 k (p b) c

/-- A link takes its token, and it enters no more levels than it takes tokens. -/
def LinkSpends (l : Link) : Prop :=
  ∀ ⦃t read⦄, l t = some read → ∀ (left : Expr) (b : Nat) ⦃c : Cursor⦄, c.ahead.Proper →
    c.current.item = t → Spends 1 0 (read left b) c

variable {l : Link} {first operand nested : Nat → Parse Expr}

/-- Each link enters a level, for which the token of the link before has been taken. -/
theorem spends_links (h : LinkSpends l) (b : Nat) (left : Expr) (hc : c.ahead.Proper) :
    Spends 0 1 (links l b left) c := by
  induction b generalizing left c with
  | zero =>
    cases hl : l c.current.item with
    | none => exact (spends_pure left hc).of_eq (links_of_none hl _ _)
    | some read => exact (spends_enterTooDeep c).of_eq (links_zero hl _)
  | succ b ih =>
    cases hl : l c.current.item with
    | none => exact (spends_pure left hc).of_eq (links_of_none hl _ _)
    | some read =>
      have hlink : Spends 1 0 (read left b >>= links l b) c :=
        spends_bind (h hl left b hc rfl) (fun hc₁ => ih _ hc₁) (Nat.le_refl 1)
      exact (spends_within hlink).zero.of_eq (links_succ hl _ _)

/-- The first operand of a chain pays for the level of its first link. -/
theorem spends_chain (hl : LinkSpends l) (hfirst : SpendsTokens 0 first) :
    SpendsTokens 0 (chain l first) := fun b _ hc =>
  spends_bind (hfirst b hc) (fun hc₁ => spends_links hl b _ hc₁) (Nat.le_refl 1)

/-- An operator takes its token and its operand. -/
theorem linkSpends_operator {node? : Token → Option (Expr → Expr → Expr)}
    (hend : node? .endOfSource = none) (h : SpendsTokens 0 operand) :
    LinkSpends (operatorLink node? operand) := by
  intro t read hread left b c hc hitem
  obtain ⟨node, hnode, rfl⟩ := Option.map_eq_some_iff.1 hread
  have hne : c.current.item ≠ .endOfSource := by
    intro he
    rw [← hitem, he, hend] at hnode
    simp at hnode
  refine spends_bind (spends_advance hc hne) (fun hc₁ => ?_) (Nat.zero_le 1)
  exact spends_bind (h b hc₁).zero (fun hc₂ => spends_pure _ hc₂) (Nat.le_refl 0)

/-! ## Connectives -/

/-- The operands of a connective enter no more levels than they take tokens. -/
theorem spends_operands {op : Connective} {b : Nat} (h : SpendsTokens 0 operand) (bound : Nat)
    (hc : c.ahead.Proper) : Spends 0 0 (operands op (operand b) bound) c := by
  induction bound generalizing c with
  | zero => exact spends_pure [] hc
  | succ bound ih =>
    refine spends_peek ?_
    split
    · rename_i hop
      have hne : c.current.item ≠ .endOfSource := by simp [hop]
      refine spends_bind (spends_advance hc hne).zero (fun hc₁ => ?_) (Nat.le_refl 0)
      refine spends_bind (h b hc₁).zero (fun hc₂ => ?_) (Nat.le_refl 0)
      exact spends_bind (ih hc₂) (fun hc₃ => spends_pure _ hc₃) (Nat.le_refl 0)
    · exact spends_pure [] hc

/-- A flat chain enters no more levels than it takes tokens. -/
theorem spends_flat {op : Connective} (h : SpendsTokens 0 operand) :
    SpendsTokens 0 (flat op operand) := by
  intro b c hc
  refine spends_bind (h b hc) (fun {first c₁} hc₁ => spends_peek ?_) (Nat.zero_le 1)
  split
  · have hrun : Spends 0 0 (do
        return .logical op (first :: (← operands op (operand b) (c₁.ahead.ahead.length + 1))) :
        Parse Expr) c₁ :=
      spends_bind (spends_operands h _ hc₁) (fun hc₂ => spends_pure _ hc₂) (Nat.le_refl 0)
    exact hrun.of_eq rfl
  · exact spends_pure first hc₁

/-! ## The operators -/

/-- An opening token pays for the level of what it encloses. -/
theorem spends_enclosed {opening closing : Token} (h : SpendsTokens 1 nested)
    (hc : c.ahead.Proper) (hopen : c.current.item = opening) (hne : opening ≠ .endOfSource)
    (hne' : closing ≠ .endOfSource) (wanted : Expectation) (node : Expr → Expr) (b : Nat) :
    Spends 1 0 (do
      advance
      let e ← nested b
      expect closing wanted
      return node e) c := by
  refine spends_bind (spends_advance hc (by rwa [hopen])) (fun hc₁ => ?_) (Nat.le_refl 1)
  refine spends_bind (h b hc₁).zero (fun hc₂ => ?_) (Nat.zero_le 1)
  exact spends_bind (spends_expect hc₂ hne' wanted).zero (fun hc₃ => spends_pure _ hc₃)
    (Nat.le_refl 0)

/-- Primary expressions enter no more levels than they take tokens. -/
theorem spends_primary (h : SpendsTokens 1 nested) : SpendsTokens 0 (primary nested) := by
  intro b c hc
  refine spends_peek ?_
  cases hitem : c.current.item
  case openParen => exact spends_enclosed h hc hitem (by simp) (by simp) _ .group b
  case integer | float | string | boolean | nil | identifier =>
    exact spends_bind (spends_advance hc (by simp [hitem])) (fun hc₁ => spends_pure _ hc₁)
      (Nat.zero_le 1)
  all_goals exact spends_stop _ c

/-- Attributes and indices enter no more levels than they take tokens. -/
theorem linkSpends_access (h : SpendsTokens 1 nested) : LinkSpends (accessLink nested) := by
  intro t read hread left b c hc hitem
  cases t
  case dot =>
    obtain rfl := Option.some.inj hread
    refine spends_bind (spends_advance hc (by simp [hitem])) (fun {_ c₁} hc₁ => spends_peek ?_)
      (Nat.zero_le 1)
    cases hname : c₁.current.item.word? with
    | none => exact spends_stop _ c₁
    | some name =>
      have hne : c₁.current.item ≠ .endOfSource := by
        intro hend
        simp [hend, Token.word?] at hname
      exact spends_bind (spends_advance hc₁ hne).zero (fun hc₂ => spends_pure _ hc₂) (Nat.le_refl 0)
  case openBracket =>
    obtain rfl := Option.some.inj hread
    exact spends_enclosed h hc hitem (by simp) (by simp) _ (.index left) b
  all_goals exact absurd hread (by simp [accessLink])

/-- A filter enters no more levels than it takes tokens. -/
theorem linkSpends_filter : LinkSpends filterLink := by
  intro t read hread left b c hc hitem
  cases t
  case pipe =>
    obtain rfl := Option.some.inj hread
    refine spends_bind (spends_advance hc (by simp [hitem])) (fun {_ c₁} hc₁ => spends_peek ?_)
      (Nat.zero_le 1)
    cases hname : c₁.current.item
    case identifier name =>
      exact spends_bind (spends_advance hc₁ (by simp [hname])).zero
        (fun hc₂ => spends_pure _ hc₂) (Nat.le_refl 0)
    all_goals exact spends_stop _ c₁
  all_goals exact absurd hread (by simp [filterLink])

/-- All tiers over a parser for nested expressions. -/
theorem spends_disjunction (h : SpendsTokens 1 nested) : SpendsTokens 0 (disjunction nested) := by
  have hfiltered : SpendsTokens 0 (filtered nested) :=
    spends_chain linkSpends_filter (spends_chain (linkSpends_access h) (spends_primary h))
  have hordering : SpendsTokens 0 (ordering nested) :=
    spends_chain (linkSpends_operator rfl hfiltered) hfiltered
  have hequality : SpendsTokens 0 (equality nested) :=
    spends_chain (linkSpends_operator rfl hordering) hordering
  have hcontainment : SpendsTokens 0 (containment nested) :=
    spends_chain (linkSpends_operator rfl hequality) hequality
  exact spends_flat (spends_flat hcontainment)

/-! ## Expressions -/

/-- However many expressions may stand inside each other, each has one level for itself. -/
theorem spends_expressionUpTo (count : Nat) : SpendsTokens 1 (expressionUpTo count) := by
  induction count with
  | zero => exact fun _ c _ => spends_enterTooDeep c
  | succ count ih =>
    intro b c hc
    cases b with
    | zero => exact spends_enterTooDeep c
    | succ b => exact spends_within (spends_disjunction ih b hc)

/-- An expression that is given up has entered its own level and no more others than it has taken
tokens. -/
theorem entered_add_left_le {b n : Nat} {s : Stop} {c c' : Cursor} (hc : c.ahead.Proper)
    (h : expression b c = .error ⟨s, n⟩ c') : n + c'.left ≤ c.left + 1 :=
  (spends_expressionUpTo b b hc).error h

end Parse

end TemplateExpr
