/-
# What is behind a fault

Where a token cannot be read, the text goes on behind what has been taken for it.  A stray character
is not taken, so it is met again; an open string takes all that is left; and a number that is too
large takes its own digits.

Main statements:
* `Token.read_eq_error`: what is taken for a faulty token;
* `tail_of_head_eq_error`: the answers behind a fault.
-/
import TemplateExpr.Token.Stream

namespace TemplateExpr

/-! ## Readings -/

namespace Token

theorem readString_eq_error {quote : Char} {cs : List Char} {fault : LexicalFault}
    (h : (readString quote cs).outcome = .error fault) :
    fault = .openString ∧ (readString quote cs).taken ≠ [] ∧ (readString quote cs).rest = [] := by
  unfold readString at h ⊢
  dsimp only at h ⊢
  split at h
  · obtain rfl := Except.error.inj h
    exact ⟨rfl, List.cons_ne_nil _ _, rfl⟩
  · simp at h

theorem readNumber_eq_error {cs : List Char} {fault : LexicalFault}
    (h : (readNumber cs).outcome = .error fault) : ∃ text, fault = .numberTooLarge text := by
  unfold readNumber at h
  dsimp only at h
  split at h
  · simp at h
  · obtain rfl := Except.error.inj h
    exact ⟨_, rfl⟩

/-- What has been taken and what is left where a token cannot be read. -/
theorem read_eq_error {cs : List Char} {fault : LexicalFault}
    (h : (read cs).outcome = .error fault) :
    (∃ c, fault = .strayCharacter c ∧ (read cs).taken = []) ∨
      (fault = .openString ∧ (read cs).taken ≠ [] ∧ (read cs).rest = []) ∨
      (∃ text, fault = .numberTooLarge text) ∧ startsNumber cs = true ∧
        read cs = readNumber cs := by
  have hread := readAs_read cs
  generalize read cs = r at h hread ⊢
  cases hread with
  | symbol hsymbol =>
    obtain ⟨symbol, t, rest, -, -, rfl⟩ := readSymbol?_eq_some hsymbol
    simp at h
  | ending => simp at h
  | string => exact .inr (.inl (readString_eq_error h))
  | number hstart => exact .inr (.inr ⟨readNumber_eq_error h, hstart, rfl⟩)
  | word => simp [readWord] at h
  | stray c =>
    obtain rfl := Except.error.inj h
    exact .inl ⟨c, rfl, rfl⟩

end Token

theorem answerAt_eq_error {r : Reading} {p : Position} {e : LexicalError}
    (h : r.answerAt p = .error e) : r.outcome = .error e.fault ∧ e.position = p := by
  unfold Reading.answerAt at h
  split at h
  · simp at h
  · obtain rfl := Except.error.inj h
    exact ⟨‹_›, rfl⟩

/-! ## Streams -/

/-- Behind a text that has ended there is nothing but its end. -/
theorem streamFrom_nil (p : Position) : streamFrom p [] = ⟨[], .ok ⟨.endOfSource, p⟩⟩ := by
  rw [streamFrom_of_taken_eq_nil p (by rfl)]
  rfl

/-- The answers behind the first one are those of a text. -/
theorem exists_tail_streamFrom (p : Position) (text : List Char) :
    ∃ p' text', (streamFrom p text).tail = streamFrom p' text' := by
  by_cases h : (Token.read (text.dropWhile Text.isBlank)).taken = []
  · refine ⟨p, text, ?_⟩
    rw [streamFrom_of_taken_eq_nil p h]
    rfl
  · rw [streamFrom_of_taken_ne_nil p h]
    exact ⟨_, _, rfl⟩

/-- Behind a stray character is that character again, and behind an open string is the end. -/
theorem tail_of_head_eq_error {p : Position} {text : List Char} {e : LexicalError}
    (h : (streamFrom p text).head = .error e) :
    (∃ c, e.fault = .strayCharacter c ∧ (streamFrom p text).tail = ⟨[], .error e⟩) ∨
      (e.fault = .openString ∧ ∃ t, t.item = .endOfSource ∧
        (streamFrom p text).tail = ⟨[], .ok t⟩) ∨
      ∃ numeral, e.fault = .numberTooLarge numeral := by
  by_cases htaken : (Token.read (text.dropWhile Text.isBlank)).taken = []
  · rw [streamFrom_of_taken_eq_nil p htaken] at h ⊢
    have hanswer : Reading.answerAt _ _ = .error e := h
    rcases Token.read_eq_error (answerAt_eq_error hanswer).1 with
      ⟨c, hc, -⟩ | ⟨-, hne, -⟩ | ⟨hnumber, -⟩
    · refine .inl ⟨c, hc, ?_⟩
      rw [hanswer]
      rfl
    · exact absurd htaken hne
    · exact .inr (.inr hnumber)
  · rw [streamFrom_of_taken_ne_nil p htaken] at h ⊢
    have hanswer : Reading.answerAt _ _ = .error e := h
    rcases Token.read_eq_error (answerAt_eq_error hanswer).1 with
      ⟨c, -, hnil⟩ | ⟨hopen, -, hrest⟩ | ⟨hnumber, -⟩
    · exact absurd hnil htaken
    · rw [hrest, streamFrom_nil]
      exact .inr (.inl ⟨hopen, _, rfl, rfl⟩)
    · exact .inr (.inr hnumber)

end TemplateExpr
