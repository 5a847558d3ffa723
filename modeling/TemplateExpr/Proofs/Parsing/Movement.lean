/-
# How a parser moves its cursor

Whatever a parser comes to, it has moved its cursor past tokens, one after the other; and it stops
at the first token that cannot be read, with the reason why.  Unlike what is known of the tokens
themselves, this also holds of a parser that has entered too many levels.

Main statements:
* `moves_bind`: a sequence moves the cursor as its parts do;
* `moves_expression`: expressions.
-/
import TemplateExpr.Proofs.Parsing.Composition
import TemplateExpr.Proofs.Parsing.Reads

namespace TemplateExpr

/-- A parser that gives up for the given reason has moved its cursor past some tokens; and where the
reason is a token that cannot be read, it has then asked for that token. -/
inductive Cursor.GivesUp : Cursor → Stop → Cursor → Prop
  | missing {c c' : Cursor} {ts : List Token} (h : c.Reads ts c') (wanted : Expectation) :
      GivesUp c (.missing wanted) c'
  | tooDeep {c c' : Cursor} {ts : List Token} (h : c.Reads ts c') : GivesUp c .tooDeep c'
  | lexical {c c₁ c' : Cursor} {ts : List Token} {e : LexicalError} (h : c.Reads ts c₁)
      (ha : Parse.advance c₁ = .error ⟨.lexical e, 0⟩ c') : GivesUp c (.lexical e) c'

/-- What gives up behind some tokens also gives up behind those before them. -/
theorem Cursor.Reads.givesUp {c c₁ c' : Cursor} {ts : List Token} {s : Stop} (h : c.Reads ts c₁)
    (h' : c₁.GivesUp s c') : c.GivesUp s c' := by
  cases h' with
  | missing hr wanted => exact .missing (h.trans hr) wanted
  | tooDeep hr => exact .tooDeep (h.trans hr)
  | lexical hr ha => exact .lexical (h.trans hr) ha

namespace Parse

variable {α β : Type}

/-! ## Sequences of parsers -/

/-- At the cursor, the parser moves past some tokens, and gives up at the first one that cannot be
read. -/
structure Moves (p : Parse α) (c : Cursor) : Prop where
  ok : ∀ {a c'}, p c = .ok a c' → ∃ ts, c.Reads ts c'
  error : ∀ {s n c'}, p c = .error ⟨s, n⟩ c' → c.GivesUp s c'

variable {p q : Parse α} {f : α → Parse β} {c : Cursor}

/-- Parsers that do the same at a cursor move it in the same way. -/
theorem Moves.of_eq (h : p c = q c) (hq : Moves q c) : Moves p c :=
  ⟨fun hrun => hq.ok (h ▸ hrun), fun hrun => hq.error (h ▸ hrun)⟩

/-- An answer without reading moves nothing. -/
theorem moves_pure (a : α) (c : Cursor) : Moves (pure a) c where
  ok h := by
    obtain ⟨-, rfl⟩ := pure_eq_ok_iff.1 h
    exact ⟨[], .refl c⟩
  error h := absurd h pure_ne_error

/-- Giving up moves nothing. -/
theorem moves_stop (wanted : Expectation) (c : Cursor) :
    Moves (stop (.missing wanted) : Parse α) c where
  ok h := by simp [stop_run] at h
  error h := by
    simp only [stop_run, EStateM.Result.error.injEq, Failure.mk.injEq] at h
    obtain ⟨⟨rfl, -⟩, rfl⟩ := h
    exact .missing (.refl c) wanted

/-- Having no level left moves nothing. -/
theorem moves_enterTooDeep (c : Cursor) : Moves (enterTooDeep : Parse α) c where
  ok h := by simp [enterTooDeep_run] at h
  error h := by
    simp only [enterTooDeep_run, EStateM.Result.error.injEq, Failure.mk.injEq] at h
    obtain ⟨⟨rfl, -⟩, rfl⟩ := h
    exact .tooDeep (.refl c)

/-- Moving on reads the token under the cursor. -/
theorem moves_advance (hne : c.current.item ≠ .endOfSource) : Moves advance c where
  ok h := ⟨_, Cursor.reads_of_advance hne h⟩
  error h := by
    obtain ⟨e, he⟩ := advance_eq_error h
    obtain ⟨rfl, rfl⟩ := Failure.mk.inj he
    exact .lexical (.refl c) h

/-- A sequence moves the cursor as its parts do. -/
theorem moves_bind (hp : Moves p c) (h : ∀ {a c₁}, p c = .ok a c₁ → Moves (f a) c₁) :
    Moves (p >>= f) c where
  ok hrun := by
    obtain ⟨a, c₁, hpc, hfc⟩ := bind_eq_ok_iff.1 hrun
    obtain ⟨ts, hts⟩ := hp.ok hpc
    obtain ⟨us, hus⟩ := (h hpc).ok hfc
    exact ⟨ts ++ us, hts.trans hus⟩
  error hrun := by
    rcases bind_eq_error_iff.1 hrun with hpc | ⟨a, c₁, hpc, hfc⟩
    · exact hp.error hpc
    · obtain ⟨ts, hts⟩ := hp.ok hpc
      exact hts.givesUp ((h hpc).error hfc)

/-- A level more does not change how the cursor moves. -/
theorem moves_within (h : Moves p c) : Moves (within p) c where
  ok hrun := h.ok (within_eq_ok_iff.1 hrun)
  error hrun := by
    obtain ⟨m, hpc, -⟩ := within_eq_error_iff.1 hrun
    exact h.error hpc

/-! ## Expressions -/

/-- Every way of putting parsers together moves the cursor past tokens. -/
theorem composes_moves : Composes fun _ _ p c => Moves p c where
  pure _ := moves_pure
  missing _ := moves_stop
  advance _ := moves_advance
  peek h := .of_eq (peek_bind _ _) h
  -- looking at the stream for the number of answers ahead moves nothing
  ahead {_ _ q c} _ h := .of_eq (show (get >>= q) c = q c c from rfl) h
  bind := moves_bind
  enterTooDeep := moves_enterTooDeep
  within := moves_within

/-- An expression moves the cursor past some tokens, and is given up at the first one that cannot be
read. -/
theorem moves_expression (b : Nat) (c : Cursor) : Moves (expression b) c :=
  composes_moves.expression b c

end Parse

end TemplateExpr
