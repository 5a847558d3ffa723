/-
# What a parser reads

A parser that succeeds has moved its cursor past some tokens, none of which is the end of the
source; one that gives up has done so too, and perhaps met a token that cannot be read.  A proper
stream has its end at the end only, so a cursor over it has finitely many tokens to read.

Main statements:
* `Reads.length_le`: every token that is read leaves one less;
* `Reads.split`, `StopsAfter.split`: the reading of two texts is the reading of one and then of
  the other;
* `Reads.comparable`, `StopsAfter.unique`: a cursor can be moved in one way only.
-/
import TemplateExpr.Proofs.Parsing.Runs

namespace TemplateExpr

/-! ## Proper streams -/

/-- The end of the source is the last answer of the stream and no other. -/
structure TokenStream.Proper (s : TokenStream) : Prop where
  /-- No token ahead is the end. -/
  ahead : ∀ t, .ok t ∈ s.ahead → t.item ≠ .endOfSource
  /-- The answer that remains is the end or an error. -/
  final : ∀ t, s.final = .ok t → t.item = .endOfSource

/-- A stream that ends properly still does so after an answer. -/
theorem TokenStream.Proper.tail {s : TokenStream} (h : s.Proper) : s.tail.Proper :=
  ⟨fun t ht => h.ahead t (List.mem_of_mem_tail ht), h.final⟩

namespace Cursor

/-- A bound for the number of tokens that a cursor can still be moved past. -/
def left (c : Cursor) : Nat :=
  if c.current.item = .endOfSource then 0 else c.ahead.ahead.length + 1

/-- Moving on keeps the end of the stream. -/
theorem proper_of_advance {c c' : Cursor} (hc : c.ahead.Proper)
    (h : Parse.advance c = .ok () c') : c'.ahead.Proper := by
  obtain ⟨t, -, rfl⟩ := Parse.advance_eq_ok_iff.1 h
  exact hc.tail

/-- Moving past a token leaves one less to move past. -/
theorem left_of_advance {c c' : Cursor} (hc : c.ahead.Proper)
    (hne : c.current.item ≠ .endOfSource) (h : Parse.advance c = .ok () c') :
    c'.left < c.left := by
  obtain ⟨current, ⟨ahead, final⟩⟩ := c
  cases ahead with
  | nil =>
    cases final with
    | error e => simp [Parse.advance, TokenStream.head] at h
    | ok token =>
      -- with no answers ahead the next token is the end
      have hend : token.item = .endOfSource := hc.final token rfl
      simp only [Parse.advance, TokenStream.head, TokenStream.tail, List.headD_nil,
        List.tail_nil, EStateM.Result.ok.injEq, true_and] at h
      subst h
      simp [left, hend, hne]
  | cons answer ahead =>
    cases answer with
    | error e => simp [Parse.advance, TokenStream.head] at h
    | ok token =>
      simp only [Parse.advance, TokenStream.head, TokenStream.tail, List.headD_cons,
        List.tail_cons, EStateM.Result.ok.injEq, true_and] at h
      subst h
      simp only [left, if_neg hne, List.length_cons]
      split <;> omega

/-! ## Reading -/

/-- Moving the cursor past the tokens leads from one cursor to the other. -/
inductive Reads : Cursor → List Token → Cursor → Prop
  | refl (c : Cursor) : Reads c [] c
  | step {c c₁ c' : Cursor} {ts : List Token} (hne : c.current.item ≠ .endOfSource)
      (h : Parse.advance c = .ok () c₁) (hs : Reads c₁ ts c') :
      Reads c (c.current.item :: ts) c'

variable {c c₁ c' d d' : Cursor} {ts us : List Token} {s : Stop}

/-- To move on once is to read the token under the cursor. -/
theorem reads_of_advance (hne : c.current.item ≠ .endOfSource)
    (h : Parse.advance c = .ok () c') : c.Reads [c.current.item] c' :=
  .step hne h (.refl c')

/-- What is read in two parts is read as a whole. -/
theorem Reads.trans (h : c.Reads ts c₁) (h' : c₁.Reads us c') : c.Reads (ts ++ us) c' := by
  induction h with
  | refl c => exact h'
  | step hne ha _ ih => exact .step hne ha (ih h')

/-- Where some tokens are read there is a cursor between any two of them. -/
theorem Reads.split (h : c.Reads (ts ++ us) c') : ∃ c₁, c.Reads ts c₁ ∧ c₁.Reads us c' := by
  induction ts generalizing c with
  | nil => exact ⟨c, .refl c, h⟩
  | cons t ts ih =>
    cases h with
    | step hne ha hs =>
      obtain ⟨c₁, h₁, h₂⟩ := ih hs
      exact ⟨c₁, .step hne ha h₁, h₂⟩

/-- Reading some tokens begins with moving past the first of them. -/
theorem reads_cons_iff {t : Token} : c.Reads (t :: ts) c' ↔
    c.current.item = t ∧ t ≠ .endOfSource ∧ ∃ c₁, Parse.advance c = .ok () c₁ ∧ c₁.Reads ts c' := by
  constructor
  · intro h
    cases h with
    | step hne ha hs => exact ⟨rfl, hne, _, ha, hs⟩
  · rintro ⟨rfl, hne, c₁, ha, hs⟩
    exact .step hne ha hs

/-- Reading keeps the end of the stream. -/
theorem Reads.proper (h : c.Reads ts c') (hc : c.ahead.Proper) : c'.ahead.Proper := by
  induction h with
  | refl c => exact hc
  | step _ ha _ ih => exact ih (proper_of_advance hc ha)

/-- Every token that is read leaves one less. -/
theorem Reads.length_le (h : c.Reads ts c') (hc : c.ahead.Proper) :
    ts.length + c'.left ≤ c.left := by
  induction h with
  | refl c => simp
  | step hne ha _ ih =>
    have hstep := left_of_advance hc hne ha
    have hrest := ih (proper_of_advance hc ha)
    rw [List.length_cons]
    omega

/-- Of two readings from one cursor, one goes on where the other ends. -/
theorem Reads.comparable {c₂ : Cursor} (h : c.Reads ts c₁) (h' : c.Reads us c₂) :
    (∃ vs, us = ts ++ vs ∧ c₁.Reads vs c₂) ∨ ∃ vs, ts = us ++ vs ∧ c₂.Reads vs c₁ := by
  induction h generalizing us with
  | refl c => exact .inl ⟨us, rfl, h'⟩
  | step hne ha hs ih =>
    cases h' with
    | refl => exact .inr ⟨_, rfl, .step hne ha hs⟩
    | step _ ha' hs' =>
      obtain rfl := (EStateM.Result.ok.inj (ha.symm.trans ha')).2
      rcases ih hs' with ⟨vs, rfl, hvs⟩ | ⟨vs, rfl, hvs⟩
      · exact .inl ⟨vs, rfl, hvs⟩
      · exact .inr ⟨vs, rfl, hvs⟩

/-- Two cursors that read the same tokens and come to the same token are at the same token. -/
theorem Reads.current_eq (h : c.Reads ts c') (h' : d.Reads ts d')
    (he : d'.current.item = c'.current.item) : d.current.item = c.current.item := by
  cases ts with
  | nil =>
    cases h
    cases h'
    exact he
  | cons t ts => rw [(reads_cons_iff.1 h).1, (reads_cons_iff.1 h').1]

/-! ## Giving up -/

/-- A parser that gives up for the given reason has moved its cursor past the tokens; the last one
is the token before the one that cannot be read, if that is the reason. -/
inductive StopsAfter : Cursor → List Token → Stop → Cursor → Prop
  | missing (c : Cursor) (wanted : Expectation) : StopsAfter c [] (.missing wanted) c
  | lexical {c c' : Cursor} {e : LexicalError} (hne : c.current.item ≠ .endOfSource)
      (h : Parse.advance c = .error ⟨.lexical e, 0⟩ c') :
      StopsAfter c [c.current.item] (.lexical e) c'
  | step {c c₁ c' : Cursor} {ts : List Token} {s : Stop}
      (hne : c.current.item ≠ .endOfSource) (h : Parse.advance c = .ok () c₁)
      (hs : StopsAfter c₁ ts s c') : StopsAfter c (c.current.item :: ts) s c'

/-- A cursor that cannot move on stops behind the token under it. -/
theorem stopsAfter_of_advance {f : Failure} (hne : c.current.item ≠ .endOfSource)
    (h : Parse.advance c = .error f c') : c.StopsAfter [c.current.item] f.stop c' := by
  obtain ⟨e, rfl⟩ := Parse.advance_eq_error h
  exact .lexical hne h

/-- What stops behind some tokens also stops behind those before them. -/
theorem Reads.stopsAfter (h : c.Reads ts c₁) (h' : c₁.StopsAfter us s c') :
    c.StopsAfter (ts ++ us) s c' := by
  induction h with
  | refl c => exact h'
  | step hne ha _ ih => exact .step hne ha (ih h')

/-- Where something is missing, all tokens behind which the parser stops have been read. -/
theorem StopsAfter.reads {wanted : Expectation} (h : c.StopsAfter ts (.missing wanted) c') :
    c.Reads ts c' := by
  generalize hs : Stop.missing wanted = s at h
  induction h with
  | missing c _ => exact .refl c
  | lexical => simp at hs
  | step hne ha _ ih => exact .step hne ha (ih hs)

/-- The first token behind which a cursor stops is the one under it. -/
theorem StopsAfter.current_eq_head {t : Token} (h : c.StopsAfter (t :: ts) s c') :
    c.current.item = t := by
  cases h <;> rfl

/-- A token that cannot be read is never met behind no token at all. -/
theorem StopsAfter.ne_lexical (h : c.StopsAfter [] s c') (e : LexicalError) : s ≠ .lexical e := by
  cases h
  simp

/-- Two cursors that stop behind the same tokens and at the same token are at the same token. -/
theorem StopsAfter.current_eq (h : c.StopsAfter ts s c') (h' : d.StopsAfter ts s d')
    (he : d'.current.item = c'.current.item) : d.current.item = c.current.item := by
  cases ts with
  | nil =>
    cases h
    cases h'
    exact he
  | cons t ts => rw [h.current_eq_head, h'.current_eq_head]

/-- A cursor that stops where another one could stop, behind some tokens more, has read those. -/
theorem StopsAfter.split (h : d.StopsAfter (ts ++ us) s d') (h' : c.StopsAfter us s c') :
    ∃ d₁, d.Reads ts d₁ ∧ d₁.StopsAfter us s d' := by
  induction ts generalizing d with
  | nil => exact ⟨d, .refl d, h⟩
  | cons t ts ih =>
    generalize hvs : t :: ts ++ us = vs at h
    cases h with
    | missing => simp at hvs
    | lexical hne ha =>
      -- then no token is left for `us`, but what cannot be read stands behind at least one
      obtain ⟨-, hnil⟩ := List.cons.inj hvs
      obtain ⟨-, rfl⟩ := List.append_eq_nil_iff.1 hnil
      exact absurd rfl (h'.ne_lexical _)
    | step hne ha hs =>
      obtain ⟨rfl, rfl⟩ := List.cons.inj hvs
      obtain ⟨d₁, h₁, h₂⟩ := ih hs
      exact ⟨d₁, .step hne ha h₁, h₂⟩

/-- What is read in front of a token that cannot be read is the first part of all that stands
there. -/
theorem StopsAfter.split_reads {e : LexicalError} (h : c.StopsAfter us (.lexical e) c')
    (h' : c.Reads ts c₁) : ∃ vs, us = ts ++ vs ∧ c₁.StopsAfter vs (.lexical e) c' := by
  induction h' generalizing us with
  | refl c => exact ⟨us, rfl, h⟩
  | step hne ha _ ih =>
    cases h with
    | lexical _ ha' => simp [ha] at ha'
    | step _ ha' hs =>
      obtain rfl := (EStateM.Result.ok.inj (ha.symm.trans ha')).2
      obtain ⟨vs, rfl, hvs⟩ := ih hs
      exact ⟨vs, rfl, hvs⟩

/-- There is one place at which a token cannot be read. -/
theorem StopsAfter.unique {c₂ : Cursor} {e e' : LexicalError}
    (h : c.StopsAfter ts (.lexical e) c') (h' : c.StopsAfter us (.lexical e') c₂) :
    ts = us ∧ c' = c₂ := by
  generalize hs : Stop.lexical e = s at h
  induction h generalizing us with
  | missing => simp at hs
  | lexical hne ha =>
    cases h' with
    | lexical _ ha' => exact ⟨rfl, (EStateM.Result.error.inj (ha.symm.trans ha')).2⟩
    | step _ ha' => simp [ha'] at ha
  | step hne ha _ ih =>
    cases h' with
    | lexical _ ha' => simp [ha'] at ha
    | step _ ha' hs' =>
      obtain rfl := (EStateM.Result.ok.inj (ha.symm.trans ha')).2
      obtain ⟨rfl, rfl⟩ := ih hs' hs
      exact ⟨rfl, rfl⟩

/-- Giving up keeps the end of the stream. -/
theorem StopsAfter.proper (h : c.StopsAfter ts s c') (hc : c.ahead.Proper) : c'.ahead.Proper := by
  induction h with
  | missing => exact hc
  | lexical _ ha =>
    obtain ⟨e, -, -, rfl⟩ := Parse.advance_eq_error_iff.1 ha
    exact hc.tail
  | step _ ha _ ih => exact ih (proper_of_advance hc ha)

/-- A parser that gives up stands where it began, or it has less in front of it. -/
theorem StopsAfter.eq_or_left_lt (h : c.StopsAfter ts s c') (hc : c.ahead.Proper) :
    c' = c ∨ c'.left < c.left := by
  induction h with
  | missing => exact .inl rfl
  | @lexical c _ _ hne ha =>
    obtain ⟨e, -, -, rfl⟩ := Parse.advance_eq_error_iff.1 ha
    obtain ⟨current, ⟨ahead, final⟩⟩ := c
    cases ahead with
    | nil => exact .inl rfl
    | cons answer ahead =>
      refine .inr ?_
      have hne' : current.item ≠ .endOfSource := hne
      simp [left, TokenStream.tail, hne']
  | step hne ha _ ih =>
    have hleft := left_of_advance hc hne ha
    rcases ih (proper_of_advance hc ha) with rfl | hlt
    · exact .inr hleft
    · exact .inr (Nat.lt_trans hlt hleft)

end Cursor

end TemplateExpr
