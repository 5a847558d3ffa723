/-
# Splitting a source

A source of which all tokens can be read is made of blanks and lexemes: in front of each lexeme and
behind the last one there can be blanks, and no lexeme goes on in the text behind it.  No other way
to split the source has these properties, so the tokens are those of its lexemes, each at the place
where its lexeme begins.

Main statements:
* `splits_of_untilError`, `untilError_of_splits`: the tokens of a text that can be split, and only
  of such a text, are read without an error;
* `tokensOf_eq_ok_iff_splits`: the tokens of a source;
* `splits_intercalate`: lexemes with a blank between them.
-/
import TemplateExpr.Proofs.Source.Faults
import TemplateExpr.Proofs.Source.Recognition

namespace TemplateExpr

/-- The text that begins at the place is the lexemes of the tokens, with blanks or none in front of
each and behind the last one.  A token stands where its lexeme begins, and its lexeme does not go
on in the text behind it. -/
inductive Splits : Position → List Char → List (Located Token) → Prop
  | nil {p : Position} {blanks : List Char} (hblanks : ∀ c ∈ blanks, Text.isBlank c = true) :
      Splits p blanks []
  | cons {p : Position} {blanks lexeme rest : List Char} {t : Token} {ts : List (Located Token)}
      (hblanks : ∀ c ∈ blanks, Text.isBlank c = true) (hlexeme : Lexeme lexeme t)
      (hends : t.EndsBefore rest) (hrest : Splits ((p.after blanks).after lexeme) rest ts) :
      Splits p (blanks ++ (lexeme ++ rest)) (⟨t, p.after blanks⟩ :: ts)

variable {p : Position} {text lexeme rest : List Char} {t : Token} {ts : List (Located Token)}

/-! ## From the tokens to the lexemes -/

/-- What is read from a text up to its end splits the text. -/
theorem splits_of_untilError (h : (streamFrom p text).untilError.2 = none) :
    Splits p text (streamFrom p text).untilError.1 := by
  fun_induction streamFrom p text with
  | case1 p text start reading htaken =>
    cases hanswer : reading.answerAt start with
    | error e => simp [hanswer, TokenStream.untilError, TokenStream.splitAtError] at h
    | ok t =>
      -- nothing but blanks is left in front of the end
      rcases Token.read_eq_ok (answerAt_eq_ok hanswer).1 with ⟨-, hnil, -⟩ | ⟨-, hne⟩
      · exact .nil (List.dropWhile_eq_nil_iff.1 hnil)
      · exact absurd htaken hne
  | case2 p text start reading htaken ih =>
    cases hanswer : reading.answerAt start with
    | error e =>
      simp [hanswer, TokenStream.prepend, TokenStream.untilError, TokenStream.splitAtError] at h
    | ok t =>
      rw [hanswer, untilError_prepend_ok] at h
      obtain ⟨hread, hposition⟩ := answerAt_eq_ok hanswer
      rcases Token.read_eq_ok hread with ⟨-, -, hnil⟩ | ⟨hne, -⟩
      · exact absurd hnil htaken
      · obtain ⟨hlexeme, hends⟩ := lexeme_of_read hread hne
        have hblanks : ∀ c ∈ text.takeWhile Text.isBlank, Text.isBlank c = true :=
          fun _ hc => List.mem_takeWhile_imp hc
        have hsplits := Splits.cons hblanks hlexeme hends (ih h)
        rw [Token.read_append, List.takeWhile_append_dropWhile] at hsplits
        obtain ⟨item, position⟩ := t
        obtain rfl : position = start := hposition
        exact hsplits

/-! ## From the lexemes to the tokens -/

theorem takeWhile_append_lexeme {blanks : List Char}
    (hblanks : ∀ c ∈ blanks, Text.isBlank c = true) (h : Lexeme lexeme t) (rest : List Char) :
    (blanks ++ (lexeme ++ rest)).takeWhile Text.isBlank = blanks ∧
      (blanks ++ (lexeme ++ rest)).dropWhile Text.isBlank = lexeme ++ rest := by
  obtain ⟨c, cs, rfl, hc⟩ := h.exists_cons
  have hhead : ∀ d ∈ (c :: cs ++ rest).head?, Text.isBlank d = false := by
    rintro d ⟨⟩
    exact hc
  exact ⟨takeWhile_append_of_head hblanks hhead, dropWhile_append_of_head hblanks hhead⟩

/-- The answers of the text behind a lexeme follow its token. -/
theorem streamFrom_of_lexeme {blanks : List Char} (hblanks : ∀ c ∈ blanks, Text.isBlank c = true)
    (h : Lexeme lexeme t) (hends : t.EndsBefore rest) (p : Position) :
    streamFrom p (blanks ++ (lexeme ++ rest)) =
      (streamFrom ((p.after blanks).after lexeme) rest).prepend (.ok ⟨t, p.after blanks⟩) := by
  obtain ⟨htake, hdrop⟩ := takeWhile_append_lexeme hblanks h rest
  have hread := read_of_lexeme h hends
  have htaken : (Token.read ((blanks ++ (lexeme ++ rest)).dropWhile Text.isBlank)).taken ≠ [] := by
    obtain ⟨c, cs, rfl, -⟩ := h.exists_cons
    rw [hdrop, hread]
    exact List.cons_ne_nil c cs
  rw [streamFrom_of_taken_ne_nil p htaken, htake, hdrop, hread]
  rfl

/-- Blanks in front of a text are skipped. -/
theorem streamFrom_append_blanks {blanks : List Char}
    (h : ∀ c ∈ blanks, Text.isBlank c = true) (p : Position) (text : List Char) :
    streamFrom p (blanks ++ text) = streamFrom (p.after blanks) text := by
  conv => congr <;> rw [streamFrom]
  simp only [List.takeWhile_append_of_pos h, List.dropWhile_append_of_pos h,
    Position.after_append]

/-- The stream with some more tokens at its head. -/
def TokenStream.prependAll (s : TokenStream) (ts : List (Located Token)) : TokenStream :=
  ⟨ts.map .ok ++ s.ahead, s.final⟩

theorem untilError_prependAll (s : TokenStream) (ts : List (Located Token)) :
    (s.prependAll ts).untilError = (ts ++ s.untilError.1, s.untilError.2) := by
  induction ts with
  | nil => rfl
  | cons t ts ih =>
    show ((s.prependAll ts).prepend (.ok t)).untilError = _
    rw [untilError_prepend_ok, ih]
    rfl

/-- Behind a text that can be split, the answers are those of what comes then. -/
theorem Splits.streamFrom_append {back : List Char} (h : Splits p text ts)
    (hback : ∀ u : Token, u.EndsBefore back) :
    streamFrom p (text ++ back) = (streamFrom (p.after text) back).prependAll ts := by
  induction h with
  | nil hblanks => exact streamFrom_append_blanks hblanks _ _
  | @cons p blanks lexeme rest t ts hblanks hlexeme hends _ ih =>
    rw [List.append_assoc, List.append_assoc,
      streamFrom_of_lexeme hblanks hlexeme (hends.append hback), ih, Position.after_append,
      Position.after_append]
    rfl

/-- The answers of a text that can be split are its tokens and its end. -/
theorem streamFrom_of_splits (h : Splits p text ts) :
    streamFrom p text = ⟨ts.map .ok, .ok ⟨.endOfSource, p.after text⟩⟩ := by
  have hnil : ∀ u : Token, u.EndsBefore [] := Token.endsBefore_of_blanked blanked_nil
  have hstream := h.streamFrom_append hnil
  rwa [streamFrom_nil, TokenStream.prependAll, List.append_nil, List.append_nil] at hstream

/-- What splits a text is read from it up to its end. -/
theorem untilError_of_splits (h : Splits p text ts) :
    (streamFrom p text).untilError = (ts, none) := by
  have hstream : streamFrom p text =
      TokenStream.prependAll ⟨[], .ok ⟨.endOfSource, p.after text⟩⟩ ts := by
    rw [streamFrom_of_splits h, TokenStream.prependAll, List.append_nil]
  calc (streamFrom p text).untilError
      = (ts ++ [], none) := by rw [hstream, untilError_prependAll]; rfl
    _ = (ts, none) := by rw [List.append_nil]

/-- The tokens of a source are those that split it, and an error is met in every other source. -/
theorem tokensOf_eq_ok_iff_splits (source : String) (ts : List (Located Token)) :
    tokensOf source = .ok ts ↔ Splits .start source.toList ts := by
  rw [tokensOf_eq_ok_iff]
  constructor
  · intro h
    obtain rfl : (streamOf source).untilError.1 = ts := congrArg Prod.fst h
    exact splits_of_untilError (congrArg Prod.snd h)
  · exact untilError_of_splits

/-! ## Lexemes with blanks between them -/

/-- One more lexeme without a blank in front of it. -/
theorem Splits.cons_lexeme (hlexeme : Lexeme lexeme t) (hends : t.EndsBefore rest)
    (hrest : Splits (p.after lexeme) rest ts) : Splits p (lexeme ++ rest) (⟨t, p⟩ :: ts) := by
  show Splits p ([] ++ (lexeme ++ rest)) (⟨t, p.after []⟩ :: ts)
  exact .cons (List.forall_mem_nil _) hlexeme hends hrest

theorem Splits.append_blanks {blanks : List Char} (h : Splits (p.after blanks) text ts)
    (hblanks : ∀ c ∈ blanks, Text.isBlank c = true) : Splits p (blanks ++ text) ts := by
  have happend : ∀ {more : List Char}, (∀ c ∈ more, Text.isBlank c = true) →
      ∀ c ∈ blanks ++ more, Text.isBlank c = true :=
    fun hmore => List.forall_mem_append.2 ⟨hblanks, hmore⟩
  cases h with
  | nil hmore => exact .nil (happend hmore)
  | @cons _ more lexeme rest t ts hmore hlexeme hends hrest =>
    have hafter : (p.after blanks).after more = p.after (blanks ++ more) :=
      (Position.after_append p blanks more).symm
    rw [hafter] at hrest ⊢
    rw [← List.append_assoc]
    exact .cons (happend hmore) hlexeme hends hrest

/-- One more lexeme in front of a blank. -/
theorem Splits.cons_blank {c : Char} (h : Splits ((p.after lexeme).next c) text ts)
    (hlexeme : Lexeme lexeme t) (hc : Text.isBlank c = true) :
    Splits p (lexeme ++ c :: text) (⟨t, p⟩ :: ts) := by
  have hrest : Splits (p.after lexeme) ([c] ++ text) ts :=
    Splits.append_blanks h (by simpa using hc)
  exact .cons_lexeme hlexeme (Token.endsBefore_of_blanked (blanked_cons hc text) t) hrest

/-- Lexemes are split as they were put together if there is a blank between any two of them. -/
theorem splits_intercalate {ws : List (List Char × Token)} (h : ∀ w ∈ ws, Lexeme w.1 w.2)
    (p : Position) : ∃ ts, Splits p ([' '].intercalate (ws.map Prod.fst)) ts ∧
      ts.map Located.item = ws.map Prod.snd := by
  induction ws generalizing p with
  | nil => exact ⟨[], .nil (by simp), rfl⟩
  | cons w ws ih =>
    have hw := h w (by simp)
    cases ws with
    | nil =>
      refine ⟨[⟨w.2, p⟩], ?_, rfl⟩
      have hends : w.2.EndsBefore [] := Token.endsBefore_of_blanked blanked_nil w.2
      have hlast : Splits p (w.1 ++ []) [⟨w.2, p⟩] := .cons_lexeme hw hends (.nil (by simp))
      simpa using hlast
    | cons v ws =>
      have hall : ∀ u ∈ v :: ws, Lexeme u.1 u.2 := fun u hu => h u (List.mem_cons_of_mem _ hu)
      obtain ⟨ts, hsplits, hitems⟩ := ih hall ((p.after w.1).next ' ')
      refine ⟨⟨w.2, p⟩ :: ts, ?_, congrArg (w.2 :: ·) hitems⟩
      have hcons := hsplits.cons_blank hw (by decide)
      simpa using hcons

end TemplateExpr
