/-
# How far a parser looks

A parser looks at the tokens that it reads and at the one behind them, and a greater budget matters
only to a parser that has entered too many levels.  So what it does at one cursor it does, with the
same or a greater budget, at every cursor with the same tokens that far.

Main statements:
* `follows_bind`: a sequence looks as far as its parts;
* `local_disjunction`: all tiers over a parser for nested expressions that looks no further;
* `follows_expression`: expressions.
-/
import TemplateExpr.Proofs.Parsing.Soundness

namespace TemplateExpr

namespace Parse

variable {α β : Type}

/-! ## Parsers that follow each other -/

/-- What `p` does at the cursor, except for giving up too deep, `q` does wherever the tokens that
`p` reads are followed by one like that behind them. -/
structure Follows (p q : Parse α) (c : Cursor) : Prop where
  ok : ∀ {a c'}, p c = .ok a c' → ∃ ts, c.Reads ts c' ∧
    ∀ {d d' : Cursor}, d.ahead.Proper → d.Reads ts d' → d'.current.item = c'.current.item →
      q d = .ok a d'
  error : ∀ {s n c'}, p c = .error ⟨s, n⟩ c' → s ≠ .tooDeep → ∃ ts, c.StopsAfter ts s c' ∧
    ∀ {d d' : Cursor}, d.ahead.Proper → d.StopsAfter ts s d' →
      d'.current.item = c'.current.item → q d = .error ⟨s, n⟩ d'

variable {p q : Parse α} {f g : α → Parse β} {c : Cursor}

/-- Of a parser that has no level left nothing has to be followed. -/
theorem follows_enterTooDeep (q : Parse α) (c : Cursor) : Follows enterTooDeep q c where
  ok h := by simp [enterTooDeep_run] at h
  error h hs := by
    simp only [enterTooDeep_run, EStateM.Result.error.injEq, Failure.mk.injEq] at h
    exact absurd h.1.1.symm hs

/-- An answer without reading looks at nothing. -/
theorem follows_pure (a : α) (c : Cursor) : Follows (pure a) (pure a) c where
  ok h := by
    obtain ⟨rfl, rfl⟩ := pure_eq_ok_iff.1 h
    refine ⟨[], .refl c, ?_⟩
    intro d d' _ hd _
    cases hd
    rfl
  error h := absurd h pure_ne_error

/-- Giving up looks at nothing but the token under the cursor. -/
theorem follows_stop (wanted : Expectation) (c : Cursor) :
    Follows (stop (.missing wanted) : Parse α) (stop (.missing wanted)) c where
  ok h := by simp [stop_run] at h
  error h hs := by
    simp only [stop_run, EStateM.Result.error.injEq, Failure.mk.injEq] at h
    obtain ⟨⟨rfl, rfl⟩, rfl⟩ := h
    refine ⟨[], .missing c wanted, ?_⟩
    intro d d' _ hd _
    cases hd
    rfl

/-- Moving on looks no further than the next token. -/
theorem follows_advance (hne : c.current.item ≠ .endOfSource) : Follows advance advance c where
  ok h := by
    refine ⟨_, Cursor.reads_of_advance hne h, ?_⟩
    intro d d' _ hd _
    obtain ⟨-, -, d₁, ha, hd⟩ := Cursor.reads_cons_iff.1 hd
    cases hd
    exact ha
  error h _ := by
    obtain ⟨e, he⟩ := advance_eq_error h
    obtain ⟨rfl, rfl⟩ := Failure.mk.inj he
    refine ⟨_, Cursor.stopsAfter_of_advance hne h, ?_⟩
    intro d d' _ hd _
    generalize hts : [c.current.item] = ts at hd
    cases hd with
    | lexical _ ha => exact ha
    | step _ _ hs =>
      obtain ⟨-, rfl⟩ := List.cons.inj hts
      exact absurd rfl (hs.ne_lexical e)

/-- A sequence looks as far as its parts. -/
theorem follows_bind (hc : c.ahead.Proper) (hp : Follows p q c)
    (h : ∀ {a c₁}, p c = .ok a c₁ → c₁.ahead.Proper → Follows (f a) (g a) c₁) :
    Follows (p >>= f) (q >>= g) c where
  ok hrun := by
    obtain ⟨a, c₁, hpc, hfc⟩ := bind_eq_ok_iff.1 hrun
    obtain ⟨ts, hts, hq⟩ := hp.ok hpc
    obtain ⟨us, hus, hg⟩ := (h hpc (hts.proper hc)).ok hfc
    refine ⟨ts ++ us, hts.trans hus, ?_⟩
    intro d d' hd hdts hitem
    -- behind what the first part reads, the token is that with which the second part begins
    obtain ⟨d₁, hd₁, hd'⟩ := hdts.split
    rw [bind_of_ok (hq hd hd₁ (hus.current_eq hd' hitem))]
    exact hg (hd₁.proper hd) hd' hitem
  error hrun hs := by
    rcases bind_eq_error_iff.1 hrun with hpc | ⟨a, c₁, hpc, hfc⟩
    · obtain ⟨ts, hts, hq⟩ := hp.error hpc hs
      exact ⟨ts, hts, fun hd hdts hitem => bind_of_error (hq hd hdts hitem)⟩
    · obtain ⟨ts, hts, hq⟩ := hp.ok hpc
      obtain ⟨us, hus, hg⟩ := (h hpc (hts.proper hc)).error hfc hs
      refine ⟨ts ++ us, hts.stopsAfter hus, ?_⟩
      intro d d' hd hdts hitem
      obtain ⟨d₁, hd₁, hd'⟩ := hdts.split hus
      rw [bind_of_ok (hq hd hd₁ (hus.current_eq hd' hitem))]
      exact hg (hd₁.proper hd) hd' hitem

/-- To compare parsers it is enough to know them at the token under the cursor. -/
theorem follows_of_current {p' q' : Parse α} (hp : p c = p' c)
    (hq : ∀ {d : Cursor}, d.ahead.Proper → d.current.item = c.current.item → q d = q' d)
    (h : Follows p' q' c) : Follows p q c where
  ok hrun := by
    rw [hp] at hrun
    obtain ⟨ts, hts, hq'⟩ := h.ok hrun
    refine ⟨ts, hts, ?_⟩
    intro d d' hd hdts hitem
    rw [hq hd (hts.current_eq hdts hitem)]
    exact hq' hd hdts hitem
  error hrun hs := by
    rw [hp] at hrun
    obtain ⟨ts, hts, hq'⟩ := h.error hrun hs
    refine ⟨ts, hts, ?_⟩
    intro d d' hd hdts hitem
    rw [hq hd (hts.current_eq hdts hitem)]
    exact hq' hd hdts hitem

/-- To look at the token under the cursor is to be compared at that token only. -/
theorem follows_peek {f g : Token → Parse β} (h : Follows (f c.current.item) (g c.current.item) c) :
    Follows (peek >>= f) (peek >>= g) c := by
  apply follows_of_current (peek_bind f c) _ h
  intro d _ hd
  rw [peek_bind, hd]

/-- Asking for a token looks no further than that token and the one behind it. -/
theorem follows_expect {token : Token} (hne : token ≠ .endOfSource) (wanted : Expectation)
    (c : Cursor) : Follows (expect token wanted) (expect token wanted) c := by
  apply follows_peek
  split
  · rename_i hitem
    exact follows_advance (by rwa [hitem])
  · exact follows_stop wanted c

/-- A level more changes nothing about how far a parser looks. -/
theorem follows_within (h : Follows p q c) : Follows (within p) (within q) c where
  ok hrun := by
    obtain ⟨ts, hts, hq⟩ := h.ok (within_eq_ok_iff.1 hrun)
    exact ⟨ts, hts, fun hd hdts hitem => within_eq_ok_iff.2 (hq hd hdts hitem)⟩
  error hrun hs := by
    obtain ⟨m, hpc, rfl⟩ := within_eq_error_iff.1 hrun
    obtain ⟨ts, hts, hq⟩ := h.error hpc hs
    exact ⟨ts, hts, fun hd hdts hitem => within_eq_error_iff.2 ⟨m, hq hd hdts hitem, rfl⟩⟩

/-! ## Chains -/

/-- The second parser follows the first one with every budget that is no smaller. -/
def Local (p q : Nat → Parse Expr) : Prop :=
  ∀ ⦃b b' : Nat⦄, b ≤ b' → ∀ ⦃c : Cursor⦄, c.ahead.Proper → Follows (p b) (q b') c

/-- The links exist for the same tokens, and the second one follows the first one. -/
def LocalLink (l m : Link) : Prop :=
  ∀ t, (l t = none ∧ m t = none) ∨ ∃ r s, l t = some r ∧ m t = some s ∧
    ∀ (left : Expr) {b b' : Nat}, b ≤ b' → ∀ {c : Cursor}, c.ahead.Proper → c.current.item = t →
      Follows (r left b) (s left b') c

variable {l m : Link}

/-- A chain from its first operand on looks as far as its links, within any greater budget. -/
theorem follows_links (h : LocalLink l m) {b b' : Nat} (hb : b ≤ b') (left : Expr)
    (hc : c.ahead.Proper) : Follows (links l b left) (links m b' left) c := by
  induction b generalizing b' left c with
  | zero =>
    rcases h c.current.item with ⟨hl, hm⟩ | ⟨r, s, hl, -, -⟩
    · exact follows_of_current (links_of_none hl _ _)
        (fun _ hd => links_of_none (by rwa [hd]) _ _) (follows_pure left c)
    · -- the first parser has no level left, so nothing is asked of the second one
      exact follows_of_current (links_zero hl _) (fun _ _ => rfl) (follows_enterTooDeep _ c)
  | succ b ih =>
    obtain ⟨b', rfl⟩ : ∃ k, b' = k + 1 := ⟨b' - 1, by omega⟩
    rcases h c.current.item with ⟨hl, hm⟩ | ⟨r, s, hl, hm, hrs⟩
    · exact follows_of_current (links_of_none hl _ _)
        (fun _ hd => links_of_none (by rwa [hd]) _ _) (follows_pure left c)
    · have hb' : b ≤ b' := Nat.le_of_succ_le_succ hb
      refine follows_of_current (links_succ hl _ _) (fun _ hd => links_succ (by rwa [hd]) _ _) ?_
      exact follows_within (follows_bind hc (hrs left hb' hc rfl) fun _ hc₁ => ih hb' _ hc₁)

/-- A chain looks as far as its first operand and its links. -/
theorem local_chain {p q : Nat → Parse Expr} (hl : LocalLink l m) (hp : Local p q) :
    Local (chain l p) (chain m q) := by
  intro b b' hb c hc
  exact follows_bind hc (hp hb hc) fun _ hc₁ => follows_links hl hb _ hc₁

/-! ## Connectives -/

/-- Where the parser succeeds, it has read some tokens. -/
def Reading (p : Parse α) : Prop :=
  ∀ ⦃c : Cursor⦄ ⦃a c'⦄, c.ahead.Proper → p c = .ok a c' → ∃ ts, c.Reads ts c'

/-- A parser that another one follows has read some tokens where it succeeds. -/
theorem reading_of_follows (h : ∀ ⦃c : Cursor⦄, c.ahead.Proper → Follows p q c) : Reading p := by
  intro c a c' hc hrun
  obtain ⟨ts, hts, -⟩ := (h hc).ok hrun
  exact ⟨ts, hts⟩

/-- One round: a connective is passed, and an operand and the rest follow. -/
def round (p : Parse Expr) (rest : Parse (List Expr)) : Parse (List Expr) := do
  advance
  let e ← p
  return e :: (← rest)

/-- With a connective under the cursor, the operands are a round and the rest. -/
theorem operands_succ {op : Connective} (p : Parse Expr) (k : Nat)
    (hop : c.current.item = .logical op) :
    operands op p (k + 1) c = round p (operands op p k) c := by
  rw [operands, peek_bind, if_pos hop]
  rfl

/-- After a round less is left than before it. -/
theorem round_congr {p : Parse Expr} {rest rest' : Parse (List Expr)} (hp : Reading p)
    (hc : c.ahead.Proper) (hne : c.current.item ≠ .endOfSource)
    (h : ∀ {d : Cursor}, d.ahead.Proper → d.left < c.left → rest d = rest' d) :
    round p rest c = round p rest' c := by
  rw [round, round]
  cases ha : advance c with
  | error f c₁ => rw [bind_of_error ha, bind_of_error ha]
  | ok _ c₁ =>
    have hc₁ := Cursor.proper_of_advance hc ha
    have hleft := Cursor.left_of_advance hc hne ha
    rw [bind_of_ok ha, bind_of_ok ha]
    cases he : p c₁ with
    | error f c₂ => rw [bind_of_error he, bind_of_error he]
    | ok e c₂ =>
      obtain ⟨ts, hts⟩ := hp hc₁ he
      have hlength := hts.length_le hc₁
      have hrest : rest c₂ = rest' c₂ := h (hts.proper hc₁) (by omega)
      rw [bind_of_ok he, bind_of_ok he]
      simp only [bind, EStateM.bind, hrest]

/-- A cursor at a connective has something left. -/
theorem left_pos_of_eq {op : Connective} (hop : c.current.item = .logical op) : 0 < c.left := by
  simp [Cursor.left, hop]

/-- The number of rounds does not matter as long as there are as many as tokens are left. -/
theorem operands_bound {op : Connective} {p : Parse Expr} (hp : Reading p) {k k' : Nat}
    (hc : c.ahead.Proper) (hk : c.left ≤ k) (hk' : c.left ≤ k') :
    operands op p k c = operands op p k' c := by
  by_cases hop : c.current.item = .logical op
  · have hpos := left_pos_of_eq hop
    induction k generalizing k' c with
    | zero => omega
    | succ k ih =>
      obtain ⟨k', rfl⟩ : ∃ n, k' = n + 1 := ⟨k' - 1, by omega⟩
      rw [operands_succ p k hop, operands_succ p k' hop]
      apply round_congr hp hc (by simp [hop])
      intro d hd hleft
      by_cases hdop : d.current.item = .logical op
      · exact ih hd (by omega) (by omega) hdop (left_pos_of_eq hdop)
      · rw [operands_of_ne hdop, operands_of_ne hdop]
  · rw [operands_of_ne hop, operands_of_ne hop]

/-- The operands of a connective, with as many rounds as tokens are left. -/
def rounds (op : Connective) (p : Parse Expr) : Parse (List Expr) := fun c =>
  operands op p c.left c

/-- At a connective, the rounds are one round and the remaining ones. -/
theorem rounds_of_eq {op : Connective} {p : Parse Expr} (hp : Reading p) (hc : c.ahead.Proper)
    (hop : c.current.item = .logical op) : rounds op p c = round p (rounds op p) c := by
  obtain ⟨k, hk⟩ : ∃ n, c.left = n + 1 := ⟨c.left - 1, by have := left_pos_of_eq hop; omega⟩
  rw [rounds, hk, operands_succ p k hop]
  apply round_congr hp hc (by simp [hop])
  intro d hd hleft
  exact operands_bound hp hd (by omega) (Nat.le_refl _)

/-- Rounds look as far as their operands. -/
theorem follows_rounds {op : Connective} {p q : Parse Expr}
    (hpq : ∀ ⦃c : Cursor⦄, c.ahead.Proper → Follows p q c) (hq : Reading q)
    (hc : c.ahead.Proper) : Follows (rounds op p) (rounds op q) c := by
  have hp : Reading p := reading_of_follows hpq
  induction hn : c.left using Nat.strongRecOn generalizing c with
  | ind n ih =>
    by_cases hop : c.current.item = .logical op
    · refine follows_of_current (rounds_of_eq hp hc hop)
        (fun hd hdop => rounds_of_eq hq hd (by rw [hdop, hop])) ?_
      -- the induction is on what is left behind the connective and its operand
      refine follows_bind hc (follows_advance (by simp [hop])) fun ha hc₁ => ?_
      refine follows_bind hc₁ (hpq hc₁) fun he hc₂ => ?_
      have hleft := Cursor.left_of_advance hc (by simp [hop]) ha
      obtain ⟨ts, hts⟩ := hp hc₁ he
      have hlength := hts.length_le hc₁
      exact follows_bind hc₂ (ih _ (by omega) hc₂ rfl) fun _ _ => follows_pure _ _
    · exact follows_of_current (operands_of_ne hop p _)
        (fun _ hd => operands_of_ne (by rwa [hd]) q _) (follows_pure [] c)

/-- The rounds of a flat chain are as many as tokens are left. -/
theorem rounds_of_bound {op : Connective} {p : Parse Expr} (hp : Reading p) (first : Expr)
    (hc : c.ahead.Proper) : (do
      let bound := (← get).ahead.ahead.length + 1
      return .logical op (first :: (← operands op p bound)) : Parse Expr) c =
    (do return .logical op (first :: (← rounds op p)) : Parse Expr) c := by
  -- there are more answers ahead than tokens left, so the number of rounds is enough
  have hbound : c.left ≤ c.ahead.ahead.length + 1 := by
    unfold Cursor.left
    split <;> omega
  have hrounds : operands op p (c.ahead.ahead.length + 1) c = rounds op p c :=
    operands_bound hp hc hbound (Nat.le_refl _)
  show (operands op p (c.ahead.ahead.length + 1) >>= _) c = _
  simp only [bind, EStateM.bind, hrounds]

/-- A flat chain looks as far as its operands. -/
theorem local_flat {op : Connective} {p q : Nat → Parse Expr} (hpq : Local p q)
    (hq : ∀ b, Reading (q b)) : Local (flat op p) (flat op q) := by
  intro b b' hb c hc
  have hp : Reading (p b) := reading_of_follows (hpq hb)
  refine follows_bind hc (hpq hb hc) fun _ hc₁ => follows_peek ?_
  split
  · refine follows_of_current (rounds_of_bound hp _ hc₁) (fun hd _ => rounds_of_bound (hq b') _ hd) ?_
    exact follows_bind hc₁ (follows_rounds (hpq hb) (hq b') hc₁) fun _ _ => follows_pure _ _
  · exact follows_pure _ _

/-! ## The operators -/

section

variable {nested nested' : Nat → Parse Expr}

/-- Primary expressions look as far as the nested ones. -/
theorem local_primary (h : Local nested nested') : Local (primary nested) (primary nested') := by
  intro b b' hb c hc
  apply follows_peek
  cases hitem : c.current.item
  case openParen =>
    refine follows_bind hc (follows_advance (by simp [hitem])) fun _ hc₁ => ?_
    refine follows_bind hc₁ (h hb hc₁) fun _ hc₂ => ?_
    exact follows_bind hc₂ (follows_expect (by simp) _ _) fun _ _ => follows_pure _ _
  case integer | float | string | boolean | nil | identifier =>
    exact follows_bind hc (follows_advance (by simp [hitem])) fun _ _ => follows_pure _ _
  all_goals exact follows_stop .expression c

/-- Attributes and indices look as far as the nested expressions. -/
theorem localLink_access (h : Local nested nested') :
    LocalLink (accessLink nested) (accessLink nested') := by
  intro t
  cases t
  case dot =>
    refine .inr ⟨_, _, rfl, rfl, ?_⟩
    intro left b b' _ c hc hitem
    refine follows_bind hc (follows_advance (by simp [hitem])) fun {_ c₁} _ hc₁ => follows_peek ?_
    cases hname : c₁.current.item.word? with
    | none => exact follows_stop .attributeName c₁
    | some name =>
      have hne : c₁.current.item ≠ .endOfSource := by
        intro hend
        simp [hend, Token.word?] at hname
      exact follows_bind hc₁ (follows_advance hne) fun _ _ => follows_pure _ _
  case openBracket =>
    refine .inr ⟨_, _, rfl, rfl, ?_⟩
    intro left b b' hb c hc hitem
    refine follows_bind hc (follows_advance (by simp [hitem])) fun _ hc₁ => ?_
    refine follows_bind hc₁ (h hb hc₁) fun _ hc₂ => ?_
    exact follows_bind hc₂ (follows_expect (by simp) _ _) fun _ _ => follows_pure _ _
  all_goals exact .inl ⟨rfl, rfl⟩

/-- A filter looks no further than its name and the token behind it. -/
theorem localLink_filter : LocalLink filterLink filterLink := by
  intro t
  cases t
  case pipe =>
    refine .inr ⟨_, _, rfl, rfl, ?_⟩
    intro left b b' _ c hc hitem
    refine follows_bind hc (follows_advance (by simp [hitem])) fun {_ c₁} _ hc₁ => follows_peek ?_
    cases hname : c₁.current.item
    case identifier =>
      exact follows_bind hc₁ (follows_advance (by simp [hname])) fun _ _ => follows_pure _ _
    all_goals exact follows_stop .filterName c₁
  all_goals exact .inl ⟨rfl, rfl⟩

/-- An operator looks as far as its operand. -/
theorem localLink_operator {node? : Token → Option (Expr → Expr → Expr)}
    (hne : node? .endOfSource = none) {p q : Nat → Parse Expr} (h : Local p q) :
    LocalLink (operatorLink node? p) (operatorLink node? q) := by
  intro t
  cases hnode : node? t with
  | none => exact .inl ⟨by rw [operatorLink, hnode]; rfl, by rw [operatorLink, hnode]; rfl⟩
  | some node =>
    refine .inr ⟨_, _, by rw [operatorLink, hnode]; rfl, by rw [operatorLink, hnode]; rfl, ?_⟩
    intro left b b' hb c hc hitem
    have hend : c.current.item ≠ .endOfSource := by
      intro hend
      rw [← hitem, hend, hne] at hnode
      simp at hnode
    refine follows_bind hc (follows_advance hend) fun _ hc₁ => ?_
    exact follows_bind hc₁ (h hb hc₁) fun _ _ => follows_pure _ _

/-! ## All tiers -/

/-- Expressions with filters look as far as the nested ones. -/
theorem local_filtered (h : Local nested nested') :
    Local (filtered nested) (filtered nested') :=
  local_chain localLink_filter (local_chain (localLink_access h) (local_primary h))

/-- The chains of operators look as far as the nested expressions. -/
theorem local_containment (h : Local nested nested') :
    Local (containment nested) (containment nested') := by
  have horder : orderNode? .endOfSource = none := rfl
  have hequal : equalityNode? .endOfSource = none := rfl
  have hcontains : containmentNode? .endOfSource = none := rfl
  have hordering : Local (ordering nested) (ordering nested') :=
    local_chain (localLink_operator horder (local_filtered h)) (local_filtered h)
  have hequality : Local (equality nested) (equality nested') :=
    local_chain (localLink_operator hequal hordering) hordering
  exact local_chain (localLink_operator hcontains hequality) hequality

end

/-! ## Expressions -/

/-- A parser that finds expressions of the grammar has read some tokens. -/
theorem reading_of_sound {T : Tier} {p : Nat → Parse Expr} (h : Sound T p) (b : Nat) :
    Reading (p b) := by
  intro c e c' _ hrun
  obtain ⟨ts, hts, -⟩ := h hrun
  exact ⟨ts, hts⟩

/-- An expression over a parser for nested expressions that looks no further. -/
theorem local_disjunction {nested : Nat → Parse Expr} (h : Local nested expression) :
    Local (disjunction nested) (disjunction expression) := by
  have hsound : SoundInside expression := spans_of_expression
  have hconjunction : Local (conjunction nested) (conjunction expression) :=
    local_flat (local_containment h) (reading_of_sound (sound_containment hsound))
  exact local_flat hconjunction (reading_of_sound (sound_conjunction hsound))

/-- A bound on the number of expressions inside each other makes no parser look further. -/
theorem local_expressionUpTo (count : Nat) : Local (expressionUpTo count) expression := by
  induction count with
  | zero =>
    intro b b' _ c _
    exact follows_enterTooDeep _ c
  | succ count ih =>
    intro b b' hb c hc
    cases b with
    | zero => exact follows_enterTooDeep _ c
    | succ b =>
      obtain ⟨b', rfl⟩ : ∃ n, b' = n + 1 := ⟨b' - 1, by omega⟩
      rw [expression_succ]
      exact follows_within (local_disjunction ih (Nat.le_of_succ_le_succ hb) hc)

/-- An expression looks no further than the token behind it, and with a greater budget nothing
changes unless it was too deep. -/
theorem follows_expression {b b' : Nat} (hb : b ≤ b') {c : Cursor} (hc : c.ahead.Proper) :
    Follows (expression b) (expression b') c :=
  local_expressionUpTo b hb hc

end Parse

end TemplateExpr
