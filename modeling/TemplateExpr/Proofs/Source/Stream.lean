/-
# The stream of a source

The stream of a source is proper: it ends with the end of the source, at the place behind the last
character, or with an error.  The tokens before the first error are those that a cursor can read.

Main statements:
* `proper_streamFrom`, `position_of_final`: how the stream of a text ends;
* `Reads.upcoming`, `StopsAfter.upcoming`: what has been read are the first ones of the tokens;
* `exists_reads_upcoming`: where there is no error, all of them can be read.
-/
import TemplateExpr.Proofs.Parsing.Reads

namespace TemplateExpr

/-! ## Readings -/

namespace Token

/-- A symbol has a character at least and is not the end of the source. -/
theorem ne_endOfSource_of_mem_symbols {symbol : List Char} {t : Token}
    (h : (symbol, t) ∈ symbols) : symbol ≠ [] ∧ t ≠ .endOfSource := by
  have hall : ∀ q ∈ symbols, q.1 ≠ [] ∧ q.2 ≠ .endOfSource := by
    simp [symbols]
  exact hall (symbol, t) h

/-- A word is not the end of the source. -/
theorem ofWord_ne_endOfSource (word : String) : ofWord word ≠ .endOfSource := by
  have hall : ∀ q ∈ keywords, q.2 ≠ .endOfSource := by
    simp [keywords]
  cases h : keywords.lookup word with
  | none => simp [ofWord_of_lookup_eq_none h]
  | some t =>
    have hmem : (word, t) ∈ keywords := by
      obtain ⟨l, r, hlr, -⟩ := List.lookup_eq_some_iff.1 h
      rw [hlr]
      simp
    rw [ofWord, h, Option.getD_some]
    exact hall _ hmem

/-- What begins a word may also stand inside one. -/
theorem isWordPart_of_isWordStart {c : Char} (h : isWordStart c = true) : isWordPart c = true := by
  simp only [isWordStart, isWordPart, Bool.or_eq_true] at *
  rcases h with h | h
  · exact .inl (.inl h)
  · exact .inr h

/-- A number takes its sign, its digits and its places. -/
theorem taken_readNumber (cs : List Char) : (readNumber cs).taken =
    (splitSign cs).1 ++ (splitSign cs).2.takeWhile Char.isDigit ++
      (splitFraction ((splitSign cs).2.dropWhile Char.isDigit)).1 := by
  unfold readNumber
  dsimp only
  split <;> rfl

/-- A number takes a character at least. -/
theorem taken_readNumber_ne_nil {cs : List Char} (h : startsNumber cs = true) :
    (readNumber cs).taken ≠ [] := by
  rw [taken_readNumber]
  fun_cases splitSign cs with
  | case1 cs => simp
  | case2 cs hsign =>
    cases cs with
    | nil => simp [startsNumber] at h
    | cons c cs =>
      have hdigit : c.isDigit = true := by
        unfold startsNumber at h
        split at h
        · rename_i heq
          obtain ⟨rfl, -⟩ := List.cons.inj heq
          exact absurd rfl (hsign _)
        · rename_i heq
          obtain ⟨rfl, -⟩ := List.cons.inj heq
          exact h
        · simp at h
      simp [hdigit]

/-- A numeral is not the end of the source. -/
theorem ne_endOfSource_of_ofNumeral? {sign whole fraction : List Char} {t : Token}
    (h : ofNumeral? sign whole fraction = some t) : t ≠ .endOfSource := by
  unfold ofNumeral? at h
  split at h
  · simp only [Option.ite_none_right_eq_some, Option.some.injEq] at h
    rw [← h.2]
    simp
  · obtain rfl := Option.some.inj h
    simp

/-- A number that has been read is not the end of the source. -/
theorem ne_endOfSource_of_readNumber {cs : List Char} {t : Token}
    (h : (readNumber cs).outcome = .ok t) : t ≠ .endOfSource := by
  unfold readNumber at h
  dsimp only at h
  split at h
  · rename_i token htoken
    obtain rfl := Except.ok.inj h
    exact ne_endOfSource_of_ofNumeral? htoken
  · simp at h

/-- A string takes a character at least and is not the end of the source. -/
theorem readString_eq_ok {quote : Char} {cs : List Char} {t : Token}
    (h : (readString quote cs).outcome = .ok t) :
    t ≠ .endOfSource ∧ (readString quote cs).taken ≠ [] := by
  unfold readString at h ⊢
  dsimp only at h ⊢
  split at h
  · simp at h
  · obtain rfl := Except.ok.inj h
    simp

/-- Only at the end of a text the end of the source is read, and only there without taking a
character. -/
theorem read_eq_ok {cs : List Char} {t : Token} (h : (read cs).outcome = .ok t) :
    (t = .endOfSource ∧ cs = [] ∧ (read cs).taken = []) ∨
      (t ≠ .endOfSource ∧ (read cs).taken ≠ []) := by
  have hread := readAs_read cs
  generalize read cs = r at h hread ⊢
  cases hread with
  | symbol hsymbol =>
    obtain ⟨symbol, t, rest, hmem, -, rfl⟩ := readSymbol?_eq_some hsymbol
    obtain rfl := Except.ok.inj h
    exact .inr (ne_endOfSource_of_mem_symbols hmem).symm
  | ending =>
    obtain rfl := Except.ok.inj h
    exact .inl ⟨rfl, rfl, rfl⟩
  | string => exact .inr (readString_eq_ok h)
  | number hstart => exact .inr ⟨ne_endOfSource_of_readNumber h, taken_readNumber_ne_nil hstart⟩
  | word hword =>
    obtain rfl := Except.ok.inj h
    exact .inr ⟨ofWord_ne_endOfSource _, by simp [readWord, isWordPart_of_isWordStart hword]⟩
  | stray => simp at h

end Token

/-! ## Texts -/

/-- The answer has the token that was read and the place where the reading began. -/
theorem answerAt_eq_ok {r : Reading} {p : Position} {t : Located Token}
    (h : r.answerAt p = .ok t) : r.outcome = .ok t.item ∧ t.position = p := by
  unfold Reading.answerAt at h
  split at h
  · obtain rfl := Except.ok.inj h
    exact ⟨‹_›, rfl⟩
  · simp at h

/-- The stream of a text ends with its end or with an error. -/
theorem proper_streamFrom (p : Position) (text : List Char) : (streamFrom p text).Proper := by
  fun_induction streamFrom p text with
  | case1 p text start reading htaken =>
    refine ⟨by simp, ?_⟩
    intro t ht
    rcases Token.read_eq_ok (answerAt_eq_ok ht).1 with ⟨hend, -⟩ | ⟨-, hne⟩
    · exact hend
    · exact absurd htaken hne
  | case2 p text start reading htaken ih =>
    refine ⟨?_, ih.final⟩
    intro t ht
    rcases List.mem_cons.1 ht with ht | ht
    · rcases Token.read_eq_ok (answerAt_eq_ok ht.symm).1 with ⟨-, -, hnil⟩ | ⟨hne, -⟩
      · exact absurd hnil htaken
      · exact hne
    · exact ih.ahead t ht

/-- The stream of a source has its end behind all tokens. -/
theorem proper_streamOf (source : String) : (streamOf source).Proper := proper_streamFrom _ _

/-- The end of a text is behind its last character. -/
theorem position_of_final {p : Position} {text : List Char} {t : Located Token}
    (h : (streamFrom p text).final = .ok t) : t.position = p.after text := by
  fun_induction streamFrom p text with
  | case1 p text start reading htaken =>
    -- nothing but blanks is left in front of the end
    obtain ⟨hread, hposition⟩ := answerAt_eq_ok h
    have hdrop : text.dropWhile Text.isBlank = [] := by
      rcases Token.read_eq_ok hread with ⟨-, hnil, -⟩ | ⟨-, hne⟩
      · exact hnil
      · exact absurd htaken hne
    have htext := List.takeWhile_append_dropWhile (p := Text.isBlank) (l := text)
    rw [hdrop, List.append_nil] at htext
    rw [hposition]
    show p.after (text.takeWhile Text.isBlank) = _
    rw [htext]
  | case2 p text start reading htaken ih =>
    rw [ih h]
    have happend : reading.taken ++ reading.rest = text.dropWhile Text.isBlank :=
      Token.read_append _
    show ((p.after (text.takeWhile Text.isBlank)).after reading.taken).after reading.rest = _
    rw [← Position.after_append, ← Position.after_append, happend,
      List.takeWhile_append_dropWhile]

/-! ## Tokens up to an error -/

/-- In front of an error there is no token. -/
theorem untilError_of_head_eq_error {s : TokenStream} {e : LexicalError}
    (h : s.head = .error e) : s.untilError = ([], some e) := by
  obtain ⟨ahead, final⟩ := s
  cases ahead with
  | nil =>
    obtain rfl : final = .error e := h
    rfl
  | cons answer ahead =>
    obtain rfl : answer = .error e := h
    rfl

/-- One more token at the head is one more before the first error. -/
theorem untilError_prepend_ok (s : TokenStream) (t : Located Token) :
    (s.prepend (.ok t)).untilError = (t :: s.untilError.1, s.untilError.2) := rfl

/-- A source has tokens if there is no error in its stream. -/
theorem tokensOf_eq_ok_iff {source : String} {ts : List (Located Token)} :
    tokensOf source = .ok ts ↔ (streamOf source).untilError = (ts, none) := by
  unfold tokensOf
  split <;> simp [*]

namespace Cursor

/-- The tokens from the cursor on that can be read, without the end, and the error behind them if
there is one. -/
def upcoming (c : Cursor) : List (Located Token) × Option LexicalError :=
  if c.current.item = .endOfSource then ([], none)
  else (c.current :: c.ahead.untilError.1, c.ahead.untilError.2)

/-- At the end of the source nothing is upcoming. -/
theorem upcoming_of_eq {c : Cursor} (h : c.current.item = .endOfSource) :
    c.upcoming = ([], none) := by
  rw [upcoming, if_pos h]

/-- Elsewhere the token under the cursor is upcoming, and what is ahead up to an error. -/
theorem upcoming_of_ne {c : Cursor} (h : c.current.item ≠ .endOfSource) :
    c.upcoming = (c.current :: c.ahead.untilError.1, c.ahead.untilError.2) := by
  rw [upcoming, if_neg h]

/-- A cursor at the head of a proper stream has the tokens of the stream before it. -/
theorem upcoming_of_head {s : TokenStream} {t : Located Token} (hs : s.Proper)
    (h : s.head = .ok t) : upcoming ⟨t, s.tail⟩ = s.untilError := by
  obtain ⟨ahead, final⟩ := s
  cases ahead with
  | nil =>
    obtain rfl : final = .ok t := h
    exact upcoming_of_eq (hs.final t rfl)
  | cons answer ahead =>
    obtain rfl : answer = .ok t := h
    exact upcoming_of_ne (hs.ahead t (by simp))

variable {c c' : Cursor} {ts : List Token}

/-- Moving on takes the first of the upcoming tokens. -/
theorem upcoming_of_advance (hc : c.ahead.Proper) (hne : c.current.item ≠ .endOfSource)
    (h : Parse.advance c = .ok () c') :
    c.upcoming = (c.current :: c'.upcoming.1, c'.upcoming.2) := by
  obtain ⟨t, hhead, rfl⟩ := Parse.advance_eq_ok_iff.1 h
  rw [upcoming_of_ne hne, upcoming_of_head hc hhead]

/-- What a cursor reads are the first ones of its tokens. -/
theorem Reads.upcoming (h : c.Reads ts c') (hc : c.ahead.Proper) :
    ∃ ls, ls.map Located.item = ts ∧ c.upcoming = (ls ++ c'.upcoming.1, c'.upcoming.2) := by
  induction h with
  | refl c => exact ⟨[], rfl, rfl⟩
  | step hne ha _ ih =>
    obtain ⟨ls, hls, hup⟩ := ih (proper_of_advance hc ha)
    refine ⟨_ :: ls, by rw [List.map_cons, hls], ?_⟩
    rw [upcoming_of_advance hc hne ha, hup]
    rfl

/-- Between two cursors there is only one sequence of tokens. -/
theorem Reads.unique {us : List Token} (h : c.Reads ts c') (h' : c.Reads us c')
    (hc : c.ahead.Proper) : ts = us := by
  obtain ⟨ls, rfl, hls⟩ := h.upcoming hc
  obtain ⟨ms, rfl, hms⟩ := h'.upcoming hc
  rw [hls, Prod.mk.injEq] at hms
  rw [List.append_cancel_right hms.1]

/-- A cursor stops at what cannot be read when all its tokens have been read. -/
theorem StopsAfter.upcoming {e : LexicalError} (h : c.StopsAfter ts (.lexical e) c')
    (hc : c.ahead.Proper) : c.upcoming.1.map Located.item = ts ∧ c.upcoming.2 = some e := by
  generalize hs : Stop.lexical e = s at h
  induction h with
  | missing => simp at hs
  | @lexical c c' e' hne ha =>
    obtain rfl : e = e' := Stop.lexical.inj hs
    obtain ⟨e'', hhead, hf, -⟩ := Parse.advance_eq_error_iff.1 ha
    obtain rfl : e = e'' := by simpa using hf
    rw [upcoming_of_ne hne, untilError_of_head_eq_error hhead]
    exact ⟨rfl, rfl⟩
  | step hne ha _ ih =>
    obtain ⟨hts, herror⟩ := ih (proper_of_advance hc ha) hs
    rw [upcoming_of_advance hc hne ha]
    exact ⟨by rw [List.map_cons, hts], herror⟩

/-- Where there is no error, all tokens can be read. -/
theorem exists_reads_upcoming (hc : c.ahead.Proper) (h : c.upcoming.2 = none) :
    ∃ c', c.Reads (c.upcoming.1.map Located.item) c' ∧ c'.current.item = .endOfSource := by
  generalize hl : c.upcoming.1 = ls
  induction ls generalizing c with
  | nil =>
    refine ⟨c, .refl c, ?_⟩
    by_cases hend : c.current.item = .endOfSource
    · exact hend
    · simp [upcoming_of_ne hend] at hl
  | cons l ls ih =>
    have hne : c.current.item ≠ .endOfSource := by
      intro hend
      simp [upcoming_of_eq hend] at hl
    cases hh : c.ahead.head with
    | error e => simp [upcoming_of_ne hne, untilError_of_head_eq_error hh] at h
    | ok token =>
      have ha := Parse.advance_of_ok hh
      rw [upcoming_of_advance hc hne ha] at h hl
      obtain ⟨rfl, hls⟩ := List.cons.inj hl
      obtain ⟨c', hc', hend⟩ := ih (proper_of_advance hc ha) h hls
      exact ⟨c', .step hne ha hc', hend⟩

/-! ## The end of a source -/

/-- The stream is proper, and its end is at the given place. -/
structure ClosesAt (c : Cursor) (p : Position) : Prop where
  proper : c.ahead.Proper
  /-- The end may be ahead. -/
  final : ∀ t, c.ahead.final = .ok t → t.position = p
  /-- The end may be under the cursor. -/
  current : c.current.item = .endOfSource → c.current.position = p

/-- A cursor at the head of a stream that closes somewhere closes there. -/
theorem ClosesAt.of_head {s : TokenStream} {t : Located Token} {p : Position} (hs : s.Proper)
    (hp : ∀ t, s.final = .ok t → t.position = p) (h : s.head = .ok t) :
    ClosesAt ⟨t, s.tail⟩ p := by
  refine ⟨hs.tail, hp, ?_⟩
  intro hend
  obtain ⟨ahead, final⟩ := s
  cases ahead with
  | nil => exact hp t h
  | cons answer ahead =>
    obtain rfl : answer = .ok t := h
    exact absurd hend (hs.ahead t (by simp))

/-- Moving on does not change where the cursor closes. -/
theorem ClosesAt.of_advance {p : Position} (hc : c.ClosesAt p)
    (h : Parse.advance c = .ok () c') : c'.ClosesAt p := by
  obtain ⟨t, hhead, rfl⟩ := Parse.advance_eq_ok_iff.1 h
  exact .of_head hc.proper hc.final hhead

/-- Reading does not change where the cursor closes. -/
theorem Reads.closesAt {p : Position} (h : c.Reads ts c') (hc : c.ClosesAt p) :
    c'.ClosesAt p := by
  induction h with
  | refl c => exact hc
  | step _ ha _ ih => exact ih (hc.of_advance ha)

end Cursor

/-- At the beginning of a source the cursor closes at the end of the source. -/
theorem closesAt_streamOf {source : String} {t : Located Token}
    (h : (streamOf source).head = .ok t) :
    Cursor.ClosesAt ⟨t, (streamOf source).tail⟩ (Position.start.after source.toList) :=
  .of_head (proper_streamOf source) (fun _ ht => position_of_final ht) h

end TemplateExpr
