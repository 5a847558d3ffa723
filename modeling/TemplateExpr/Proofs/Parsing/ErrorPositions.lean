/-
# Where parsing fails

A parser stands at a token that its scanner has given, and asks for the tokens behind it one by one.
So whatever it gives up with, the error is about the token at which it stands, or it is the error
that the scanner has given instead of the next token.

Main statements:
* `Reads.isAt`: a parser goes through the tokens of its scanner;
* `exists_metAt`: every error is met at an answer of the scanner;
* `locates_answers_and_errors`: where answers and errors are.
-/
import TemplateExpr.Proofs.Parsing.Movement
import TemplateExpr.Proofs.Parsing.Source
import TemplateExpr.Proofs.Source.Positions

namespace TemplateExpr

/-! ## Cursors and scanners -/

namespace Scanner

variable {s : Scanner}

theorem answers_append (s : Scanner) (asked more : List Inquiry) :
    s.answers (asked ++ more) = s.answers asked ++ (s.after asked).answers more := by
  induction asked generalizing s with
  | nil => rfl
  | cons i asked ih => exact congrArg ((s.ask i).1 :: ·) (ih (s.ask i).2)

/-- One more request for a token has the next answer. -/
theorem mem_answers_replicate (s : Scanner) (n : Nat) :
    some (s.after (List.replicate n .token)).next.1 ∈
      s.answers (List.replicate (n + 1) .token) := by
  rw [List.replicate_succ', answers_append]
  exact List.mem_append_right _ List.mem_cons_self

end Scanner

namespace Cursor

variable {c c' : Cursor} {s : Scanner} {ts : List Token}

/-- The token under the cursor is the next one of the scanner, and the scanner then goes on as the
stream behind the cursor does. -/
structure IsAt (c : Cursor) (s : Scanner) : Prop where
  current : s.next.1 = .ok c.current
  ahead : s.next.2.stream = c.ahead

theorem IsAt.head (h : c.IsAt s) : s.next.2.next.1 = c.ahead.head := by
  rw [s.next.2.next_stream.1, h.ahead]

theorem IsAt.advance (h : c.IsAt s) (ha : Parse.advance c = .ok () c') : c'.IsAt s.next.2 := by
  obtain ⟨t, hhead, rfl⟩ := Parse.advance_eq_ok_iff.1 ha
  exact ⟨h.head.trans hhead, s.next.2.next_stream.2.trans (congrArg TokenStream.tail h.ahead)⟩

/-- For every token that the cursor is moved past, the scanner has been asked once more. -/
theorem Reads.isAt (h : c.Reads ts c') (hc : c.IsAt s) :
    c'.IsAt (s.after (List.replicate ts.length .token)) := by
  induction h generalizing s with
  | refl c => exact hc
  | step _ ha _ ih => exact ih (hc.advance ha)

end Cursor

/-! ## Errors and answers -/

/-- The error was met at the answer: it is the error that was answered, or it is about the token
that was answered. -/
inductive SyntaxError.MetAt : SyntaxError → TokenAnswer → Prop
  | lexical (e : LexicalError) : MetAt (.lexical e) (.error e)
  | wrongToken (wanted : Expectation) {t : Located Token} (h : t.item ≠ .endOfSource) :
      MetAt (.wrongToken wanted t.item t.position) (.ok t)
  | sourceEnded (wanted : Expectation) {t : Located Token} (h : t.item = .endOfSource) :
      MetAt (.sourceEnded wanted t.position) (.ok t)
  | tooDeep (limit : Nat) (t : Located Token) : MetAt (.tooDeep limit t.position) (.ok t)

namespace SyntaxError

theorem MetAt.position_eq {err : SyntaxError} {a : TokenAnswer} (h : err.MetAt a) :
    err.position = a.position := by
  cases h <;> rfl

theorem metAt_missing (wanted : Expectation) (t : Located Token) :
    (missing wanted t).MetAt (.ok t) := by
  unfold missing
  split
  · exact .sourceEnded wanted ‹_›
  · exact .wrongToken wanted ‹_›

end SyntaxError

/-- A parser that gives up does so at an answer of its scanner. -/
theorem Cursor.GivesUp.exists_metAt {c c' : Cursor} {s : Scanner} {stop : Stop}
    (h : c.GivesUp stop c') (hc : c.IsAt s) (limit : Nat) :
    ∃ n, (SyntaxError.ofStop limit c'.current stop).MetAt
      (s.after (List.replicate n .token)).next.1 := by
  cases h with
  | @missing _ ts hts wanted =>
    refine ⟨ts.length, ?_⟩
    rw [(hts.isAt hc).current]
    exact SyntaxError.metAt_missing wanted _
  | @tooDeep _ ts hts =>
    refine ⟨ts.length, ?_⟩
    rw [(hts.isAt hc).current]
    exact .tooDeep limit _
  | @lexical c₁ _ ts e hts ha =>
    -- the scanner has been asked once more, for the token that could not be read
    refine ⟨ts.length + 1, ?_⟩
    obtain ⟨e', hhead, hf, -⟩ := Parse.advance_eq_error_iff.1 ha
    obtain rfl : e = e' := by simpa using hf
    rw [List.replicate_succ', Scanner.after_append]
    show SyntaxError.MetAt _ (s.after (List.replicate ts.length .token)).next.2.next.1
    rw [(hts.isAt hc).head, hhead]
    exact .lexical e

variable {limit : Nat} {source : String} {err : SyntaxError}

/-- Every error of a source is met at one of the answers to requests for its tokens. -/
theorem exists_metAt (h : parseWithin limit source = .error err) :
    ∃ n, err.MetAt ((Scanner.ofSource source).after (List.replicate n .token)).next.1 := by
  obtain ⟨hhead, htail⟩ := Scanner.next_stream (Scanner.ofSource source)
  rw [Scanner.stream_ofSource] at hhead htail
  cases hfirst : (streamOf source).head with
  | error e =>
    rw [parseWithin_of_head_eq_error hfirst] at h
    obtain rfl := Except.error.inj h
    refine ⟨0, ?_⟩
    show SyntaxError.MetAt _ (Scanner.ofSource source).next.1
    rw [hhead, hfirst]
    exact .lexical e
  | ok t =>
    have hstart : Cursor.IsAt ⟨t, (streamOf source).tail⟩ (Scanner.ofSource source) :=
      ⟨hhead.trans hfirst, htail⟩
    have hmoves := Parse.moves_expression limit ⟨t, (streamOf source).tail⟩
    cases hrun : Parse.expression limit ⟨t, (streamOf source).tail⟩ with
    | ok e c =>
      rw [parseWithin_of_ok hfirst hrun] at h
      split at h
      · simp at h
      · obtain rfl := Except.error.inj h
        obtain ⟨ts, hts⟩ := hmoves.ok hrun
        refine ⟨ts.length, ?_⟩
        rw [(hts.isAt hstart).current]
        exact SyntaxError.metAt_missing _ _
    | error f c =>
      rw [parseWithin_of_error hfirst hrun] at h
      obtain rfl := Except.error.inj h
      exact (hmoves.error hrun).exists_metAt hstart limit

/-- However a scanner is asked, each of its answers is about a place in the source, with the line
and the column that this place has, and says what stands there.  Behind a token all answers are
about later places, and the end of the source is the end of the text.  And every error of a parser,
within any limit, is about such a place: it is met at an answer to a request for a token. -/
theorem locates_answers_and_errors (source : String) :
    (∀ asked a, some a ∈ (Scanner.ofSource source).answers asked → Locates a source.toList) ∧
    (∀ asked, ((Scanner.ofSource source).answers asked).Pairwise fun first later =>
      ∀ t a, first = some (.ok t) → t.item ≠ .endOfSource → later = some a →
        t.position.offset < a.position.offset) ∧
    ∀ limit err, parseWithin limit source = .error err →
      ∃ n a, some a ∈ (Scanner.ofSource source).answers (List.replicate n .token) ∧
        err.MetAt a ∧ err.position = a.position := by
  refine ⟨fun _ _ => Scanner.locates_of_mem_answers, Scanner.pairwise_answers _, ?_⟩
  intro limit err h
  obtain ⟨n, hmet⟩ := exists_metAt h
  exact ⟨n + 1, _, Scanner.mem_answers_replicate _ n, hmet, hmet.position_eq⟩

/-- The string with a line feed ends on the second line, and so the quote without its partner is the
third character there. -/
theorem locates_answers_and_errors_openString :
    Locates (.error ⟨.openString, ⟨5, 2, 3⟩⟩) "'a\n' \"b\n".toList ∧
      parseWithin 9 "'a\n' \"b\n" = .error (.lexical ⟨.openString, ⟨5, 2, 3⟩⟩) ∧
      ∃ n, some (.error ⟨.openString, ⟨5, 2, 3⟩⟩) ∈
        (Scanner.ofSource "'a\n' \"b\n").answers (List.replicate n .token) := by
  obtain ⟨hlocates, -, herrors⟩ := locates_answers_and_errors "'a\n' \"b\n"
  have hparse : parseWithin 9 "'a\n' \"b\n" = .error (.lexical ⟨.openString, ⟨5, 2, 3⟩⟩) := by
    have hstream : streamOf "'a\n' \"b\n" = ⟨[.ok ⟨.string "a\n", ⟨0, 1, 1⟩⟩,
        .error ⟨.openString, ⟨5, 2, 3⟩⟩], .ok ⟨.endOfSource, ⟨8, 3, 1⟩⟩⟩ := by cbv
    rw [parseWithin_of_head (congrArg TokenStream.head hstream), hstream]
    rfl
  obtain ⟨n, a, ha, hmet, -⟩ := herrors 9 _ hparse
  cases hmet
  exact ⟨hlocates _ _ ha, hparse, n, ha⟩

end TemplateExpr
