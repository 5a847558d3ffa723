/-
# Runs of parsers

How a sequence of parsers came to its result: every part before the last one has succeeded.

Main statements:
* `bind_eq_ok_iff`, `bind_eq_error_iff`: the two parts of a sequence;
* `primary_cases`: which token leads a primary expression where.
-/
import TemplateExpr.Expr.Parse

namespace TemplateExpr

/-! ## Sequences of parsers -/

namespace Parse

variable {α β : Type}

/-- A sequence succeeds if its parts do, one behind the other. -/
theorem bind_eq_ok_iff {p : Parse α} {q : α → Parse β} {c c' : Cursor} {b : β} :
    (p >>= q) c = .ok b c' ↔ ∃ a c₁, p c = .ok a c₁ ∧ q a c₁ = .ok b c' := by
  cases h : p c with
  | ok a c₁ =>
    rw [bind_of_ok h]
    constructor
    · intro hq
      exact ⟨a, c₁, rfl, hq⟩
    · rintro ⟨a', c₂, he, hq⟩
      obtain ⟨rfl, rfl⟩ := EStateM.Result.ok.inj he
      exact hq
  | error f c₁ => simp [bind_of_error h]

/-- A sequence is given up in its first part or in its second one. -/
theorem bind_eq_error_iff {p : Parse α} {q : α → Parse β} {c c' : Cursor} {f : Failure} :
    (p >>= q) c = .error f c' ↔
      p c = .error f c' ∨ ∃ a c₁, p c = .ok a c₁ ∧ q a c₁ = .error f c' := by
  cases h : p c with
  | ok a c₁ =>
    rw [bind_of_ok h]
    constructor
    · intro hq
      exact .inr ⟨a, c₁, rfl, hq⟩
    · rintro (he | ⟨a', c₂, he, hq⟩)
      · simp at he
      · obtain ⟨rfl, rfl⟩ := EStateM.Result.ok.inj he
        exact hq
  | error g c₁ => simp [bind_of_error h]

/-- An answer without reading leaves the cursor where it is. -/
theorem pure_eq_ok_iff {a b : α} {c c' : Cursor} :
    (pure a : Parse α) c = .ok b c' ↔ a = b ∧ c = c' := by
  show EStateM.Result.ok a c = .ok b c' ↔ _
  rw [EStateM.Result.ok.injEq]

/-- An answer without reading is never given up. -/
theorem pure_ne_error {a : α} {c c' : Cursor} {f : Failure} :
    (pure a : Parse α) c ≠ .error f c' := by
  show EStateM.Result.ok a c ≠ .error f c'
  simp

/-- Looking at the token under the cursor changes nothing. -/
theorem peek_bind (q : Token → Parse β) (c : Cursor) : (peek >>= q) c = q c.current.item c :=
  bind_of_ok (peek_run c)

/-- A level does not show where the parser succeeds. -/
theorem within_eq_ok_iff {p : Parse α} {c c' : Cursor} {a : α} :
    within p c = .ok a c' ↔ p c = .ok a c' := by
  cases h : p c with
  | ok a' c₁ => rw [within_of_ok h]
  | error f c₁ => simp [within_of_error h]

/-- A level counts for one where the parser gives up. -/
theorem within_eq_error_iff {p : Parse α} {c c' : Cursor} {s : Stop} {n : Nat} :
    within p c = .error ⟨s, n⟩ c' ↔ ∃ m, p c = .error ⟨s, m⟩ c' ∧ n = m + 1 := by
  cases h : p c with
  | ok a c₁ => simp [within_of_ok h]
  | error f c₁ =>
    obtain ⟨s', m⟩ := f
    rw [within_of_error h]
    constructor
    · intro he
      simp only [EStateM.Result.error.injEq, Failure.mk.injEq] at he
      obtain ⟨⟨rfl, rfl⟩, rfl⟩ := he
      exact ⟨m, rfl, rfl⟩
    · rintro ⟨m', he, rfl⟩
      simp only [EStateM.Result.error.injEq, Failure.mk.injEq] at he
      obtain ⟨⟨rfl, rfl⟩, rfl⟩ := he
      rfl

/-! ## Tokens -/

/-- The cursor moves on to a token that can be read. -/
theorem advance_eq_ok_iff {c c' : Cursor} :
    advance c = .ok () c' ↔ ∃ t, c.ahead.head = .ok t ∧ c' = ⟨t, c.ahead.tail⟩ := by
  cases hh : c.ahead.head with
  | ok t => simp [advance_of_ok hh, eq_comm]
  | error e => simp [advance_of_error hh]

/-- The cursor keeps its token where the next one cannot be read. -/
theorem advance_eq_error_iff {c c' : Cursor} {f : Failure} : advance c = .error f c' ↔
    ∃ e, c.ahead.head = .error e ∧ f = ⟨.lexical e, 0⟩ ∧ c' = ⟨c.current, c.ahead.tail⟩ := by
  cases hh : c.ahead.head with
  | ok t => simp [advance_of_ok hh]
  | error e => simp [advance_of_error hh, eq_comm]

/-- Only a token that cannot be read keeps a cursor from moving on. -/
theorem advance_eq_error {c c' : Cursor} {f : Failure} (h : advance c = .error f c') :
    ∃ e, f = ⟨.lexical e, 0⟩ := by
  obtain ⟨e, -, hf, -⟩ := advance_eq_error_iff.1 h
  exact ⟨e, hf⟩

/-- A token that is asked for is passed if it is under the cursor. -/
theorem expect_eq_ok_iff {token : Token} {wanted : Expectation} {c c' : Cursor} :
    expect token wanted c = .ok () c' ↔ c.current.item = token ∧ advance c = .ok () c' := by
  rw [expect_run]
  split
  · simp [*]
  · simp [stop_run, *]

/-- A token that is asked for is missing, or what is behind it cannot be read. -/
theorem expect_eq_error_iff {token : Token} {wanted : Expectation} {c c' : Cursor}
    {f : Failure} : expect token wanted c = .error f c' ↔
      (c.current.item = token ∧ advance c = .error f c') ∨
        (c.current.item ≠ token ∧ f = ⟨.missing wanted, 0⟩ ∧ c = c') := by
  rw [expect_run]
  split
  · simp [*]
  · rw [stop_run, EStateM.Result.error.injEq, eq_comm (a := f)]
    simp [*]

/-! ## Primary expressions -/

/-- A primary expression is a literal, a variable or a group, or there is none. -/
theorem primary_cases (nested : Nat → Parse Expr) (b : Nat) (c : Cursor) :
    (∃ v, literal? c.current.item = some v ∧
      primary nested b c = (do advance; return .literal v : Parse Expr) c) ∨
    (∃ name, c.current.item = .identifier name ∧
      primary nested b c = (do advance; return .var name : Parse Expr) c) ∨
    (c.current.item = .openParen ∧ primary nested b c = (do
      advance
      let inner ← nested b
      expect .closeParen .closingParen
      return .group inner : Parse Expr) c) ∨
    (literal? c.current.item = none ∧ primary nested b c = stop (.missing .expression) c) := by
  rw [primary, peek_bind]
  unfold literal?
  cases c.current.item <;> simp

end Parse

end TemplateExpr
