/-
# Parsers that are asked again

A parser can be asked for one expression after the other, and it can be asked again after an error.
Up to the first token that cannot be read, every character has been read as part of a token.

Main statements:
* `expression_spans`, `expression_givesUp`: what one request comes to;
* `after_induct`: what each request leaves as it is stays over all of them;
* `reads_after`: up to the first token that cannot be read there are tokens only.
-/
import Mathlib
import TemplateExpr.Expr.Session
import TemplateExpr.Proofs.Parsing.Movement
import TemplateExpr.Proofs.Parsing.Soundness
import TemplateExpr.Proofs.Source.Faults

namespace TemplateExpr

/-! ## What stays -/

namespace Cursor

/-- The property stays with a cursor that is moved on, and with one that cannot be. -/
structure Stays (P : Cursor → Prop) : Prop where
  ok : ∀ {c c'}, P c → Parse.advance c = .ok () c' → P c'
  error : ∀ {c f c'}, P c → Parse.advance c = .error f c' → P c'

variable {P : Cursor → Prop} {c c' : Cursor} {ts : List Token}

/-- Reading keeps what stays. -/
theorem Stays.reads (hP : Stays P) (h : c.Reads ts c') (hc : P c) : P c' := by
  induction h with
  | refl c => exact hc
  | step _ ha _ ih => exact ih (hP.ok hc ha)

/-- Giving up keeps what stays. -/
theorem Stays.givesUp {s : Stop} (hP : Stays P) (h : c.GivesUp s c') (hc : P c) : P c' := by
  cases h with
  | missing hr | tooDeep hr => exact hP.reads hr hc
  | lexical hr ha => exact hP.error (hP.reads hr hc) ha

/-- The stream ahead is that of a text. -/
def Scans (c : Cursor) : Prop := ∃ p text, c.ahead = streamFrom p text

/-- Behind an answer the stream is that of a text again. -/
theorem scans_tail (h : c.Scans) (t : Located Token) : Scans ⟨t, c.ahead.tail⟩ := by
  obtain ⟨p, text, htext⟩ := h
  rw [htext]
  exact exists_tail_streamFrom p text

/-- The stream ahead stays that of a text. -/
theorem stays_scans : Stays Scans where
  ok hc ha := by
    obtain ⟨t, -, rfl⟩ := Parse.advance_eq_ok_iff.1 ha
    exact scans_tail hc t
  error hc ha := by
    obtain ⟨e, -, -, rfl⟩ := Parse.advance_eq_error_iff.1 ha
    exact scans_tail hc _

end Cursor

/-! ## Requests -/

/-- What a parser is asked for. -/
inductive Request where
  /-- The next expression. -/
  | expression
  /-- The next expression, behind which the source must end. -/
  | last
deriving DecidableEq, Inhabited

namespace Parser

/-- The answer to a request, and the parser behind it. -/
def answer (p : Parser) : Request → Except SyntaxError Expr × Parser
  | .expression => p.expression
  | .last => p.lastExpression

/-- The answers to some requests, one after the other. -/
def answers (p : Parser) : List Request → List (Except SyntaxError Expr)
  | [] => []
  | r :: requests => (p.answer r).1 :: (p.answer r).2.answers requests

/-- The parser behind some requests. -/
def after (p : Parser) : List Request → Parser
  | [] => p
  | r :: requests => (p.answer r).2.after requests

/-- No request, now or later, is answered with a tree. -/
def Exhausted (p : Parser) : Prop :=
  ∀ (requests : List Request) (r : Request) (e : Expr), ((p.after requests).answer r).1 ≠ .ok e

variable {p : Parser} {r : Request} {requests : List Request} {e : Expr} {err : SyntaxError}

/-- The answer is that to a request for an expression, unless the source does not end there. -/
theorem answer_cases (p : Parser) (r : Request) :
    p.answer r = p.expression ∨ (∃ e, p.expression.1 = .ok e) ∧ p.answer r =
      (.error (.missing .endOfSource p.expression.2.cursor.current), p.expression.2) := by
  cases r with
  | expression => exact .inl rfl
  | last =>
    rw [answer, lastExpression]
    rcases p.expression with ⟨_ | e, p'⟩
    · exact .inl rfl
    · dsimp only
      split
      · exact .inl rfl
      · exact .inr ⟨⟨e, rfl⟩, rfl⟩

/-- A parser goes on in the same way whether or not the source must end. -/
theorem answer_snd (p : Parser) (r : Request) : (p.answer r).2 = p.expression.2 := by
  rcases p.answer_cases r with h | ⟨-, h⟩ <;> rw [h]

/-- A tree that is answered is the expression that was found. -/
theorem expression_eq_ok (h : (p.answer r).1 = .ok e) : p.expression.1 = .ok e := by
  rcases p.answer_cases r with hr | ⟨-, hr⟩
  · rwa [hr] at h
  · simp [hr] at h

/-- Where no expression is found every request has the same answer. -/
theorem answer_eq_error (h : p.expression.1 = .error err) : (p.answer r).1 = .error err := by
  rcases p.answer_cases r with hr | ⟨⟨e, he⟩, -⟩
  · rwa [hr]
  · simp [he] at h

/-- The error for a token that cannot be read comes from the expression itself. -/
theorem expression_eq_lexical {f : LexicalError} (h : (p.answer r).1 = .error (.lexical f)) :
    p.expression.1 = .error (.lexical f) := by
  rcases p.answer_cases r with hr | ⟨-, hr⟩
  · rwa [hr] at h
  · rw [hr, Except.error.injEq] at h
    exact absurd h (SyntaxError.missing_ne_lexical _ _ f)

/-! ## One request -/

/-- A request for an expression moves the cursor past some tokens, and it finds an expression only
if a level is left. -/
theorem expression_spans (h : p.expression.1 = .ok e) :
    p.depth < p.limit ∧ ∃ ts, p.cursor.Reads ts p.expression.2.cursor ∧
      Derives .disjunction ts e := by
  rw [expression_eq] at h ⊢
  split at h
  · rename_i e' c hrun
    obtain rfl := Except.ok.inj h
    obtain ⟨n, hn, ts, hts, hder, -⟩ := Parse.spans_of_expression hrun
    exact ⟨by omega, ts, hts, hder⟩
  · simp at h

/-- A request that fails goes one level deeper at least, and leaves the cursor where it gave up. -/
theorem expression_givesUp (h : p.expression.1 = .error err) :
    p.depth < p.expression.2.depth ∧ ∃ s, p.cursor.GivesUp s p.expression.2.cursor ∧
      err = .ofStop p.limit p.expression.2.cursor.current s := by
  refine ⟨expression_depth_of_error (Prod.ext h rfl), ?_⟩
  rw [expression_eq] at h ⊢
  split at h
  · simp at h
  · rename_i f c hrun
    obtain rfl := Except.error.inj h
    exact ⟨f.stop, (Parse.moves_expression _ _).error hrun, rfl⟩

/-- Where a token cannot be read, the one before it stays under the cursor, and the stream goes
on. -/
theorem cursor_of_lexical {f : LexicalError} (h : p.expression.1 = .error (.lexical f)) :
    ∃ ts c, p.cursor.Reads ts c ∧ c.ahead.head = .error f ∧
      p.expression.2.cursor = ⟨c.current, c.ahead.tail⟩ := by
  obtain ⟨-, s, hs, hstop⟩ := expression_givesUp h
  cases hs with
  | tooDeep => simp [SyntaxError.ofStop] at hstop
  | missing => exact absurd hstop.symm (SyntaxError.missing_ne_lexical _ _ f)
  | lexical hts ha =>
    obtain ⟨f', hhead, hf', hc⟩ := Parse.advance_eq_error_iff.1 ha
    obtain rfl := Stop.lexical.inj (Failure.mk.inj hf').1
    obtain rfl := SyntaxError.lexical.inj hstop
    exact ⟨_, _, hts, hhead, hc⟩

/-- A request moves the cursor past some tokens unless one cannot be read. -/
theorem reads_of_not_lexical (h : ∀ f, p.expression.1 ≠ .error (.lexical f)) :
    ∃ ts, p.cursor.Reads ts p.expression.2.cursor := by
  cases hp : p.expression.1 with
  | ok e =>
    obtain ⟨-, ts, hts, -⟩ := expression_spans hp
    exact ⟨ts, hts⟩
  | error err =>
    obtain ⟨-, s, hs, rfl⟩ := expression_givesUp hp
    cases hs with
    | missing hts | tooDeep hts => exact ⟨_, hts⟩
    | lexical => exact absurd hp (h _)

/-- A request does not change the limit. -/
theorem limit_expression (p : Parser) : p.expression.2.limit = p.limit := by
  rw [expression_eq]
  split <;> rfl

end Parser

/-- What stays with a cursor that is moved stays with a parser that is asked. -/
theorem Cursor.Stays.expression {P : Cursor → Prop} (hP : Stays P) {p : Parser} (h : P p.cursor) :
    P p.expression.2.cursor := by
  cases hp : p.expression.1 with
  | ok e =>
    obtain ⟨-, ts, hts, -⟩ := Parser.expression_spans hp
    exact hP.reads hts h
  | error err =>
    obtain ⟨-, s, hs, -⟩ := Parser.expression_givesUp hp
    exact hP.givesUp hs h

/-! ## Many requests -/

namespace Parser

variable {p : Parser} {requests : List Request}

/-- What each request leaves as it is stays over all of them. -/
theorem after_induct {motive : Parser → Prop} (h : ∀ p, motive p → motive p.expression.2)
    (hp : motive p) (requests : List Request) : motive (p.after requests) := by
  induction requests generalizing p with
  | nil => exact hp
  | cons r requests ih =>
    rw [after, answer_snd]
    exact ih (h p hp)

/-- Where no request is answered with an error for a token that cannot be read, all that the cursor
has moved past are tokens. -/
theorem reads_after (h : ∀ f, .error (.lexical f) ∉ p.answers requests) :
    ∃ ts, p.cursor.Reads ts (p.after requests).cursor := by
  induction requests generalizing p with
  | nil => exact ⟨[], .refl p.cursor⟩
  | cons r requests ih =>
    simp only [answers, List.mem_cons, not_or] at h
    obtain ⟨ts, hts⟩ := reads_of_not_lexical fun f hf => (h f).1 (answer_eq_error hf).symm
    obtain ⟨us, hus⟩ := ih fun f => (h f).2
    rw [answer_snd] at hus
    rw [after, answer_snd]
    exact ⟨ts ++ us, hts.trans hus⟩

/-! ## New parsers -/

/-- A parser stands at the first token of its stream. -/
theorem ofScanner_of_stream {scanner : Scanner} {t : Located Token} {ahead : List TokenAnswer}
    {final : TokenAnswer} (limit : Nat) (h : scanner.stream = ⟨.ok t :: ahead, final⟩) :
    ofScanner limit scanner = .ok ⟨⟨t, ⟨ahead, final⟩⟩, limit, 0⟩ := by
  obtain ⟨hhead, htail⟩ := scanner.next_stream
  rw [h] at hhead htail
  rw [ofScanner]
  cases hnext : scanner.next with
  | mk answer rest =>
    rw [hnext] at hhead htail
    obtain rfl : answer = .ok t := hhead
    have hrest : rest.stream = ⟨ahead, final⟩ := htail
    rw [← hrest]

/-- A new parser has the stream of a text ahead. -/
theorem scans_of_ofScanner {limit : Nat} {scanner : Scanner} (h : ofScanner limit scanner = .ok p) :
    p.cursor.Scans := by
  unfold ofScanner at h
  split at h
  · obtain rfl := Except.ok.inj h
    exact ⟨_, _, rfl⟩
  · simp at h

end Parser

end TemplateExpr
