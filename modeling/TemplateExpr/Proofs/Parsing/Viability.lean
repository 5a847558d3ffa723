/-
# Where a parser gives up

The tokens that a parser has read when it gives up are the beginning of an expression of its tier,
unless it gives up because it has entered too many levels.  The proof follows the operators, like
that of soundness: what has been read up to some point is completed in the shortest way.

Main statements:
* `begins_links`: a chain is given up inside a link;
* `begins_disjunction`: all tiers over a parser for nested expressions of which this is known;
* `viable_of_expression_eq_error`: an expression is given up inside an expression of the grammar.
-/
import TemplateExpr.Proofs.Parsing.Soundness

namespace TemplateExpr

namespace Parse

variable {α : Type}

/-- To miss something is to stop behind no token. -/
theorem stopsAfter_of_stop {wanted : Expectation} {c c' : Cursor} {s : Stop} {n : Nat}
    (h : (stop (.missing wanted) : Parse α) c = .error ⟨s, n⟩ c') : c.StopsAfter [] s c' := by
  simp only [stop_run, EStateM.Result.error.injEq, Failure.mk.injEq] at h
  obtain ⟨⟨rfl, -⟩, rfl⟩ := h
  exact .missing c wanted

/-- The expected token is missing, or it has been read and what is behind it cannot be read. -/
theorem stopsAfter_of_expect {token : Token} {wanted : Expectation} {c c' : Cursor} {s : Stop}
    {n : Nat} (hne : token ≠ .endOfSource)
    (h : expect token wanted c = .error ⟨s, n⟩ c') :
    c.StopsAfter [] s c' ∨ c.StopsAfter [token] s c' := by
  rcases expect_eq_error_iff.1 h with ⟨rfl, ha⟩ | ⟨-, hf, rfl⟩
  · exact .inr (Cursor.stopsAfter_of_advance hne ha)
  · obtain ⟨rfl, -⟩ := Failure.mk.inj hf
    exact .inl (.missing c wanted)

/-! ## Chains -/

/-- What the parser has read when it gives up begins an expression of the tier. -/
def Begins (T : Tier) (p : Nat → Parse Expr) : Prop :=
  ∀ ⦃b c s n c'⦄, p b c = .error ⟨s, n⟩ c' → s ≠ .tooDeep →
    ∃ ts, c.StopsAfter ts s c' ∧ Viable T ts

/-- What a link has read when it gives up goes on with a chain of the tier. -/
def BeginsLink (K : Tier) (l : Link) : Prop :=
  ∀ ⦃read b c left s n c' ts⦄, l c.current.item = some read → Derives K ts left →
    read left b c = .error ⟨s, n⟩ c' → s ≠ .tooDeep →
    ∃ us, c.StopsAfter us s c' ∧ Viable K (ts ++ us)

variable {K T : Tier} {l : Link} {first : Nat → Parse Expr}

/-- The links before the one in which the parser gives up are a chain. -/
theorem begins_links (hsound : SoundLink K l) (h : BeginsLink K l) {b : Nat} {left : Expr}
    {c c' : Cursor} {ts : List Token} {s : Stop} {n : Nat} (hleft : Derives K ts left)
    (hrun : links l b left c = .error ⟨s, n⟩ c') (hs : s ≠ .tooDeep) :
    ∃ us, c.StopsAfter us s c' ∧ Viable K (ts ++ us) := by
  induction b generalizing left c ts n with
  | zero =>
    cases hl : l c.current.item with
    | none => simp [links_of_none hl] at hrun
    | some read =>
      simp only [links_zero hl, enterTooDeep_run, EStateM.Result.error.injEq,
        Failure.mk.injEq] at hrun
      exact absurd hrun.1.1.symm hs
  | succ b ih =>
    cases hl : l c.current.item with
    | none => simp [links_of_none hl] at hrun
    | some read =>
      rw [links_succ hl, within_eq_error_iff] at hrun
      obtain ⟨m, hrun, rfl⟩ := hrun
      rcases bind_eq_error_iff.1 hrun with hread | ⟨e₁, c₁, hread, hrest⟩
      · exact h hl hleft hread hs
      · obtain ⟨us, hus, he₁, -⟩ := hsound hl hleft hread
        obtain ⟨vs, hvs, hviable⟩ := ih he₁ hrest
        refine ⟨us ++ vs, hus.stopsAfter hvs, ?_⟩
        rwa [← List.append_assoc]

/-- A chain is given up in its first operand or inside a link. -/
theorem begins_chain (hsound : SoundLink K l) (h : BeginsLink K l) (hfirst : Sound T first)
    (hbegins : Begins T first) (hlift : ∀ {ts e}, Derives T ts e → Derives K ts e) :
    Begins K (chain l first) := by
  intro b c s n c' hrun hs
  rcases bind_eq_error_iff.1 hrun with hrun | ⟨e₀, c₀, h₀, hrun⟩
  · obtain ⟨ts, hts, us, e, he⟩ := hbegins hrun hs
    exact ⟨ts, hts, us, e, hlift he⟩
  · obtain ⟨ts, hts, he₀, -⟩ := hfirst h₀
    obtain ⟨us, hus, hviable⟩ := begins_links hsound h (hlift he₀) hrun hs
    exact ⟨ts ++ us, hts.stopsAfter hus, hviable⟩

/-! ## Links -/

section

variable {nested : Nat → Parse Expr} {node? : Token → Option (Expr → Expr → Expr)}
  {operand : Nat → Parse Expr}

/-- An operator is given up behind its token or in its operand. -/
theorem beginsLink_operator (h : Operators K T node?) (hbegins : Begins T operand) :
    BeginsLink K (operatorLink node? operand) := by
  intro read b c left s n c' ts hl hleft hread hs
  obtain ⟨node, hnode, rfl⟩ := Option.map_eq_some_iff.1 hl
  -- any operand completes what ends with the operator
  have hshort := h.derives hnode hleft (derives_nil T)
  have hne : c.current.item ≠ .endOfSource := hshort.ne_endOfSource _ (by simp)
  rcases bind_eq_error_iff.1 hread with ha | ⟨_, c₁, ha, hread⟩
  · exact ⟨_, Cursor.stopsAfter_of_advance hne ha, hshort.viable [.nil] (by simp)⟩
  rcases bind_eq_error_iff.1 hread with hright | ⟨right, c₂, -, hread⟩
  · obtain ⟨us, hus, vs, e, he⟩ := hbegins hright hs
    exact ⟨_, .step hne ha hus, (h.derives hnode hleft he).viable vs (by simp)⟩
  · exact absurd hread pure_ne_error

/-- A filter is given up behind the pipe or behind its name. -/
theorem beginsLink_filter : BeginsLink .filtered filterLink := by
  intro read b c left s n c' ts hl hleft hread _
  obtain ⟨ht, hread'⟩ := filterLink_eq_some_iff.1 hl
  obtain rfl := Option.some.inj hread'
  have hne : c.current.item ≠ .endOfSource := by simp [ht]
  have hviable : Viable .filtered (ts ++ [c.current.item]) :=
    (hleft.filter "").viable [.identifier ""] (by simp [ht])
  rcases bind_eq_error_iff.1 hread with ha | ⟨_, c₁, ha, hread⟩
  · exact ⟨_, Cursor.stopsAfter_of_advance hne ha, hviable⟩
  rw [peek_bind] at hread
  cases hname : c₁.current.item
  case identifier name =>
    rw [hname] at hread
    rcases bind_eq_error_iff.1 hread with ha₁ | ⟨_, c₂, -, hread⟩
    · exact ⟨_, .step hne ha (Cursor.stopsAfter_of_advance (by simp [hname]) ha₁),
        (hleft.filter name).viable [] (by simp [ht, hname])⟩
    · exact absurd hread pure_ne_error
  all_goals
    rw [hname] at hread
    exact ⟨_, .step hne ha (stopsAfter_of_stop hread), hviable⟩

/-- An attribute is given up behind its point or at its end. -/
theorem viable_attribute {b : Nat} {left : Expr} {c c' : Cursor} {ts : List Token} {s : Stop}
    {n : Nat} {read : Expr → Nat → Parse Expr} (ht : c.current.item = .dot)
    (hl : some read = accessLink nested .dot) (hleft : Derives .access ts left)
    (hread : read left b c = .error ⟨s, n⟩ c') :
    ∃ us, c.StopsAfter us s c' ∧ Viable .access (ts ++ us) := by
  obtain rfl := Option.some.inj hl
  have hne : c.current.item ≠ .endOfSource := by simp [ht]
  have hviable : Viable .access (ts ++ [c.current.item]) :=
    (hleft.field (.identifier "")).viable [.identifier ""] (by simp [ht])
  rcases bind_eq_error_iff.1 hread with ha | ⟨_, c₁, ha, hread⟩
  · exact ⟨_, Cursor.stopsAfter_of_advance hne ha, hviable⟩
  rw [peek_bind] at hread
  cases hname : c₁.current.item.word? with
  | none =>
    rw [hname] at hread
    exact ⟨_, .step hne ha (stopsAfter_of_stop hread), hviable⟩
  | some name =>
    rw [hname] at hread
    have hder := hleft.field (namesAttribute_iff.2 hname)
    rcases bind_eq_error_iff.1 hread with ha₁ | ⟨_, c₂, -, hread⟩
    · have hne₁ : c₁.current.item ≠ .endOfSource := hder.ne_endOfSource _ (by simp)
      exact ⟨_, .step hne ha (Cursor.stopsAfter_of_advance hne₁ ha₁),
        hder.viable [] (by simp [ht])⟩
    · exact absurd hread pure_ne_error

/-- Between brackets, an expression is given up behind the opening one, inside, or at the closing
one. -/
theorem stopsAfter_of_enclosed {opening closing : Token} {wanted : Expectation}
    {node : Expr → Expr} {b : Nat} {c c' : Cursor} {s : Stop} {n : Nat}
    (hsound : SoundInside nested) (hbegins : Begins .disjunction nested)
    (hopen : c.current.item = opening) (hne : opening ≠ .endOfSource)
    (hne' : closing ≠ .endOfSource)
    (hrun : (do
      advance
      let e ← nested b
      expect closing wanted
      return node e : Parse Expr) c = .error ⟨s, n⟩ c') (hs : s ≠ .tooDeep) :
    ∃ us vs ws e, c.StopsAfter us s c' ∧ Derives .disjunction ws e ∧
      opening :: (ws ++ [closing]) = us ++ vs := by
  subst hopen
  -- the closing token ends what is completed, wherever the parser has given up
  rcases bind_eq_error_iff.1 hrun with ha | ⟨_, c₁, ha, hrest⟩
  · exact ⟨_, _, _, _, Cursor.stopsAfter_of_advance hne ha, derives_nil .disjunction, rfl⟩
  rcases bind_eq_error_iff.1 hrest with hinner | ⟨inner, c₂, hinner, hclose⟩
  · obtain ⟨us, hus, vs, e, he⟩ := hbegins hinner hs
    exact ⟨_, vs ++ [closing], _, e, .step hne ha hus, he, by simp⟩
  obtain ⟨m, -, us, hus, hder, -⟩ := hsound hinner
  rcases bind_eq_error_iff.1 hclose with hclose | ⟨_, c₃, -, hpure⟩
  · rcases stopsAfter_of_expect hne' hclose with hstop | hstop
    · exact ⟨_, [closing], us, inner, .step hne ha (hus.stopsAfter hstop), hder, by simp⟩
    · exact ⟨_, [], us, inner, .step hne ha (hus.stopsAfter hstop), hder, by simp⟩
  · exact absurd hpure pure_ne_error

/-- An attribute or an index is given up inside a chain of its tier. -/
theorem beginsLink_access (hsound : SoundInside nested) (hbegins : Begins .disjunction nested) :
    BeginsLink .access (accessLink nested) := by
  intro read b c left s n c' ts hl hleft hread hs
  rcases accessLink_eq_some_iff.1 hl with ⟨ht, hread'⟩ | ⟨ht, hread'⟩
  · exact viable_attribute ht hread' hleft hread
  · obtain rfl := Option.some.inj hread'
    obtain ⟨us, vs, ws, e, hus, he, hws⟩ :=
      stopsAfter_of_enclosed hsound hbegins ht (by simp) (by simp) hread hs
    exact ⟨us, hus, (hleft.index he).viable vs (by rw [hws, List.append_assoc])⟩

/-! ## Primary expressions -/

/-- What is read of a primary expression begins one. -/
theorem begins_primary (hsound : SoundInside nested) (hbegins : Begins .disjunction nested) :
    Begins .primary (primary nested) := by
  intro b c s n c' hrun hs
  rcases primary_cases nested b c with ⟨v, hv, h'⟩ | ⟨name, hname, h'⟩ | ⟨hopen, h'⟩ | ⟨-, h'⟩ <;>
    rw [h'] at hrun
  · have hder := literal?_eq_some hv
    rcases bind_eq_error_iff.1 hrun with ha | ⟨_, c₁, -, hrun⟩
    · exact ⟨_, Cursor.stopsAfter_of_advance (hder.ne_endOfSource _ (by simp)) ha,
        hder.viable [] (by simp)⟩
    · exact absurd hrun pure_ne_error
  · rcases bind_eq_error_iff.1 hrun with ha | ⟨_, c₁, -, hrun⟩
    · refine ⟨_, Cursor.stopsAfter_of_advance (by simp [hname]) ha, ?_⟩
      exact (Derives.var name).viable [] (by simp [hname])
    · exact absurd hrun pure_ne_error
  · obtain ⟨us, vs, ws, e, hus, he, hws⟩ :=
      stopsAfter_of_enclosed hsound hbegins hopen (by simp) (by simp) hrun hs
    exact ⟨us, hus, he.group.viable vs hws⟩
  · exact ⟨[], stopsAfter_of_stop hrun, (derives_nil .primary).viable [.nil] rfl⟩

/-! ## Connectives -/

/-- The operands before the one in which the parser gives up are expressions. -/
theorem begins_operands {op : Connective} {p : Nat → Parse Expr} (hsound : Sound T p)
    (hbegins : Begins T p) {b bound : Nat} {c c' : Cursor} {s : Stop} {n : Nat}
    (hrun : operands op (p b) bound c = .error ⟨s, n⟩ c') (hs : s ≠ .tooDeep) :
    ∃ (us vs : List Token) (more : List (List Token × Expr)), more ≠ [] ∧
      (∀ q ∈ more, Derives T q.1 q.2) ∧ c.StopsAfter us s c' ∧
      (more.flatMap fun q => .logical op :: q.1) = us ++ vs := by
  induction bound generalizing c n with
  | zero => exact absurd hrun pure_ne_error
  | succ bound ih =>
    rw [operands, peek_bind] at hrun
    split at hrun
    · rename_i hop
      have hne : c.current.item ≠ .endOfSource := by simp [hop]
      rcases bind_eq_error_iff.1 hrun with ha | ⟨_, c₁, ha, hrest⟩
      · exact ⟨_, [.nil], [([.nil], .literal .nil)], by simp, by simpa using derives_nil T,
          Cursor.stopsAfter_of_advance hne ha, by simp [hop]⟩
      rcases bind_eq_error_iff.1 hrest with he | ⟨e, c₂, he, hrest⟩
      · obtain ⟨us, hus, vs, e, he⟩ := hbegins he hs
        exact ⟨_, vs, [(us ++ vs, e)], by simp, by simpa using he, .step hne ha hus,
          by simp [hop]⟩
      obtain ⟨ts, hts, hder, -⟩ := hsound he
      rcases bind_eq_error_iff.1 hrest with hes | ⟨es, c₃, -, hpure⟩
      · obtain ⟨us, vs, more, -, hall, hus, hmore⟩ := ih hes
        refine ⟨_, vs, (ts, e) :: more, by simp, by simpa using ⟨hder, by simpa using hall⟩,
          .step hne ha (hts.stopsAfter hus), ?_⟩
        simp [hop, hmore]
      · exact absurd hpure pure_ne_error
    · exact absurd hrun pure_ne_error

/-- A chain of a connective is given up in one of its operands. -/
theorem begins_flat {op : Connective} (h : Connects K T op) {operand : Nat → Parse Expr}
    (hsound : Sound T operand) (hbegins : Begins T operand) : Begins K (flat op operand) := by
  intro b c s n c' hrun hs
  rcases bind_eq_error_iff.1 hrun with hfirst | ⟨first, c₁, hfirst, hrest⟩
  · obtain ⟨ts, hts, us, e, he⟩ := hbegins hfirst hs
    exact ⟨ts, hts, us, e, h.lift he⟩
  obtain ⟨ts, hts, hder, -⟩ := hsound hfirst
  rw [peek_bind] at hrest
  split at hrest
  · rcases bind_eq_error_iff.1 hrest with hget | ⟨_, c₂, hget, hrest⟩
    · -- looking at the stream never fails
      apply absurd hget
      show EStateM.Result.ok c₁ c₁ ≠ .error _ _
      simp
    obtain ⟨rfl, rfl⟩ := EStateM.Result.ok.inj hget
    rcases bind_eq_error_iff.1 hrest with hes | ⟨es, c₃, -, hpure⟩
    · obtain ⟨us, vs, more, hne, hall, hus, hmore⟩ := begins_operands hsound hbegins hes hs
      refine ⟨ts ++ us, hts.stopsAfter hus, ?_⟩
      exact (h.derives hder hne hall).viable vs (by rw [hmore, List.append_assoc])
    · exact absurd hpure pure_ne_error
  · exact absurd hrest pure_ne_error

/-! ## All tiers -/

/-- What is read of an expression with filters begins one. -/
theorem begins_filtered (hsound : SoundInside nested) (hbegins : Begins .disjunction nested) :
    Begins .filtered (filtered nested) := by
  have haccess : Begins .access (access nested) :=
    begins_chain (sound_accessLink hsound) (beginsLink_access hsound hbegins)
      (sound_primary hsound) (begins_primary hsound hbegins) .ofPrimary
  exact begins_chain sound_filterLink beginsLink_filter (sound_access hsound) haccess .ofAccess

/-- What is read of a chain of operators begins one. -/
theorem begins_operator {node? : Token → Option (Expr → Expr → Expr)} (h : Operators K T node?)
    {operand : Nat → Parse Expr} (hsound : Sound T operand) (hbegins : Begins T operand)
    (hlift : ∀ {ts e}, Derives T ts e → Derives K ts e) :
    Begins K (chain (operatorLink node? operand) operand) :=
  begins_chain (sound_operatorLink h hsound) (beginsLink_operator h hbegins) hsound hbegins hlift

/-- Over nested expressions given up inside the grammar, so are all tiers. -/
theorem begins_disjunction (hsound : SoundInside nested) (hbegins : Begins .disjunction nested) :
    Begins .disjunction (disjunction nested) := by
  have hordering : Begins .ordering (ordering nested) :=
    begins_operator operators_order (sound_filtered hsound) (begins_filtered hsound hbegins)
      .ofFiltered
  have hequality : Begins .equality (equality nested) :=
    begins_operator operators_equality (sound_ordering hsound) hordering .ofOrdering
  have hcontainment : Begins .containment (containment nested) :=
    begins_operator operators_containment (sound_equality hsound) hequality .ofEquality
  have hconjunction : Begins .conjunction (conjunction nested) :=
    begins_flat connects_and (sound_containment hsound) hcontainment
  exact begins_flat connects_or (sound_conjunction hsound) hconjunction

end

/-! ## Expressions -/

/-- However many expressions may stand inside each other, what is read begins one. -/
theorem begins_expressionUpTo (count : Nat) : Begins .disjunction (expressionUpTo count) := by
  induction count with
  | zero =>
    intro b c s n c' hrun hs
    simp only [expressionUpTo, enterTooDeep_run, EStateM.Result.error.injEq,
      Failure.mk.injEq] at hrun
    exact absurd hrun.1.1.symm hs
  | succ count ih =>
    intro b c s n c' hrun hs
    cases b with
    | zero =>
      simp only [expressionUpTo, nest, enterTooDeep_run, EStateM.Result.error.injEq,
        Failure.mk.injEq] at hrun
      exact absurd hrun.1.1.symm hs
    | succ b =>
      rw [expressionUpTo, nest, within_eq_error_iff] at hrun
      obtain ⟨m, hrun, -⟩ := hrun
      exact begins_disjunction (soundInside_expressionUpTo count) ih hrun hs

/-- What has been read when an expression is given up is the beginning of one. -/
theorem viable_of_expression_eq_error {b : Nat} {c c' : Cursor} {s : Stop} {n : Nat}
    (h : expression b c = .error ⟨s, n⟩ c') (hs : s ≠ .tooDeep) :
    ∃ ts, c.StopsAfter ts s c' ∧ Viable .disjunction ts :=
  begins_expressionUpTo b h hs

end Parse

end TemplateExpr
