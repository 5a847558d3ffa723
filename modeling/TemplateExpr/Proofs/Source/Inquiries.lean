/-
# Scanners that are asked

A scanner can be asked for its next token and for the next item of its list, and the two ways of
asking can be mixed.  Both go through the same text: up to the first fault it does not matter how
the scanner is asked, and every request for a token takes at least one character or has found the
answer of all further ones.  Only the list has an end of its own.

Main statements:
* `after_induct`: what going on by one token leaves as it is stays over all inquiries;
* `answers_of_length_le`: the tokens in front of the first fault;
* `next_progress`: a request for a token gets on or has found the last answer;
* `lawful_of_asked`: what is known of a scanner after any inquiries.
-/
import TemplateExpr.Proofs.Source.Faults
import TemplateExpr.Proofs.Source.Recognition
import TemplateExpr.Token.Scanner

namespace TemplateExpr

/-! ## Numbers that are too large -/

namespace Token

/-- What is taken for a number that is too large are its digits, with a sign or none, and all of
them. -/
theorem numeral_of_readNumber {cs : List Char} {fault : LexicalFault}
    (hstart : startsNumber cs = true) (h : (readNumber cs).outcome = .error fault) :
    ∃ negative ds, IsDigits ds ∧ (readNumber cs).taken = signOf negative ++ ds ∧
      fault = .numberTooLarge (String.ofList (signOf negative ++ ds)) ∧
      ∀ n, (Token.integer n).EndsBefore (readNumber cs).rest := by
  obtain ⟨negative, ds, rest, hds, rfl, ⟨places, tail, hplaces, rfl, hends⟩ | hends⟩ :=
    exists_numeral hstart
  · -- with a point among its digits no number is too large
    have hread := readNumber_decimal negative hds hplaces hends
    rw [List.append_assoc, List.append_assoc, List.cons_append] at hread
    simp [hread] at h
  · rw [readNumber_whole negative hds hends] at h ⊢
    cases htoken : ofNumeral? (signOf negative) ds [] with
    | some token => simp [htoken] at h
    | none =>
      rw [htoken] at h
      obtain rfl := Except.error.inj h
      exact ⟨negative, ds, hds, rfl, rfl, hends⟩

end Token

/-! ## Inquiries -/

/-- What a scanner can be asked for. -/
inductive Inquiry where
  /-- The next token, the end of the source included. -/
  | token
  /-- The next item of the list of tokens. -/
  | item
deriving DecidableEq

namespace Scanner

/-- The answer to an inquiry, and the scanner behind it. -/
def ask (s : Scanner) : Inquiry → Option TokenAnswer × Scanner
  | .token => (some s.next.1, s.next.2)
  | .item => s.nextItem

/-- The answers to some inquiries, one after the other. -/
def answers (s : Scanner) : List Inquiry → List (Option TokenAnswer)
  | [] => []
  | i :: inquiries => (s.ask i).1 :: (s.ask i).2.answers inquiries

/-- The scanner behind some inquiries. -/
def after (s : Scanner) : List Inquiry → Scanner
  | [] => s
  | i :: inquiries => (s.ask i).2.after inquiries

/-- Every further request for a token has this answer, whatever is asked before it. -/
def Settled (s : Scanner) (a : TokenAnswer) : Prop :=
  ∀ inquiries, (s.after inquiries).next.1 = a

variable {s : Scanner} {i : Inquiry} {inquiries : List Inquiry}

/-- The scanner behind all inquiries is the one behind the last of them. -/
theorem after_append (s : Scanner) (inquiries more : List Inquiry) :
    s.after (inquiries ++ more) = (s.after inquiries).after more := by
  induction inquiries generalizing s with
  | nil => rfl
  | cons i inquiries ih => exact ih (s.ask i).2

/-- An answer that is settled stays so, whatever is asked. -/
theorem Settled.after {a : TokenAnswer} (h : s.Settled a) (inquiries : List Inquiry) :
    (s.after inquiries).Settled a := by
  intro more
  rw [← after_append]
  exact h (inquiries ++ more)

/-! ## One inquiry -/

/-- What is left is blanks, what is taken for the next token, and what is left behind it. -/
theorem rest_eq (s : Scanner) : s.rest = s.rest.takeWhile Text.isBlank ++
    ((Token.read (s.rest.dropWhile Text.isBlank)).taken ++ s.next.2.rest) := by
  show _ = _ ++ (_ ++ (Token.read (s.rest.dropWhile Text.isBlank)).rest)
  rw [Token.read_append, List.takeWhile_append_dropWhile]

/-- The next answer is an error, the end of the text, or a token and then what is behind it. -/
theorem next_cases (s : Scanner) :
    (∃ e, s.next.1 = .error e ∧ s.stream.untilError = ([], some e)) ∨
      (s.next.1 = .ok ⟨.endOfSource, s.position.after s.rest⟩ ∧
        s.stream.untilError = ([], none)) ∨
      ∃ t, s.next.1 = .ok t ∧ t.item ≠ .endOfSource ∧ s.stream.untilError =
        (t :: s.next.2.stream.untilError.1, s.next.2.stream.untilError.2) := by
  have hproper : s.stream.Proper := proper_streamFrom s.position s.rest
  obtain ⟨hhead, htail⟩ := s.next_stream
  rw [hhead, htail]
  cases h : s.stream.head with
  | error e => exact .inl ⟨e, rfl, untilError_of_head_eq_error h⟩
  | ok t =>
    rw [← Cursor.upcoming_of_head hproper h]
    by_cases hend : t.item = .endOfSource
    · have hcloses := Cursor.ClosesAt.of_head hproper (fun _ ht => position_of_final ht) h
      have hposition := hcloses.current hend
      rw [← hend, ← hposition]
      exact .inr (.inl ⟨rfl, Cursor.upcoming_of_eq hend⟩)
    · exact .inr (.inr ⟨t, rfl, hend, Cursor.upcoming_of_ne hend⟩)

/-- The scanner with its list ended or not. -/
def markedFinished (s : Scanner) (b : Bool) : Scanner := { s with finished := b }

/-- An item of the list is a token that can be read. -/
theorem nextItem_of_ok {t : Located Token} (hf : s.finished = false) (h : s.next.1 = .ok t)
    (hne : t.item ≠ .endOfSource) : s.nextItem = (some (.ok t), s.next.2) := by
  obtain ⟨item, p⟩ := t
  have hnext : s.next = (.ok ⟨item, p⟩, s.next.2) := Prod.ext h rfl
  rw [nextItem, hf, hnext]
  cases item <;> first | rfl | exact absurd rfl hne

/-- At the end of the source the list ends. -/
theorem nextItem_of_end {p : Position} (hf : s.finished = false)
    (h : s.next.1 = .ok ⟨.endOfSource, p⟩) :
    s.nextItem = (none, s.next.2.markedFinished true) := by
  have hnext : s.next = (.ok ⟨.endOfSource, p⟩, s.next.2) := Prod.ext h rfl
  rw [nextItem, hf, hnext]
  rfl

/-- An error is an item, and behind it the list ends. -/
theorem nextItem_of_error {e : LexicalError} (hf : s.finished = false) (h : s.next.1 = .error e) :
    s.nextItem = (some (.error e), s.next.2.markedFinished true) := by
  have hnext : s.next = (.error e, s.next.2) := Prod.ext h rfl
  rw [nextItem, hf, hnext]
  rfl

/-- A list that has ended leaves the scanner as it is, and every other inquiry moves it on by one
token; the list does not begin again. -/
theorem ask_snd (s : Scanner) (i : Inquiry) : s.finished = true ∧ s.ask i = (none, s) ∨
    ∃ b, (s.finished = true → b = true) ∧ (s.ask i).2 = s.next.2.markedFinished b := by
  cases i with
  | token => exact .inr ⟨s.finished, id, rfl⟩
  | item =>
    cases hf : s.finished with
    | true => exact .inl ⟨rfl, nextItem_of_finished hf⟩
    | false =>
      rcases s.next_cases with ⟨e, h, -⟩ | ⟨h, -⟩ | ⟨t, h, hne, -⟩
      · exact .inr ⟨true, fun _ => rfl, congrArg Prod.snd (nextItem_of_error hf h)⟩
      · exact .inr ⟨true, fun _ => rfl, congrArg Prod.snd (nextItem_of_end hf h)⟩
      · refine .inr ⟨false, id, ?_⟩
        rw [ask, nextItem_of_ok hf h hne, ← hf]
        rfl

/-- An answer is that of the next token, however the scanner has been asked. -/
theorem next_of_ask_eq_some {a : TokenAnswer} (h : (s.ask i).1 = some a) :
    s.next.1 = a ∧ ∃ b, (s.ask i).2 = s.next.2.markedFinished b := by
  rcases ask_snd s i with ⟨-, hnone⟩ | ⟨b, -, hb⟩
  · simp [hnone] at h
  · refine ⟨?_, b, hb⟩
    cases i with
    | token => exact Option.some.inj h
    | item =>
      rw [ask] at h
      cases hf : s.finished with
      | true => simp [nextItem_of_finished hf] at h
      | false =>
        rcases s.next_cases with ⟨e, hnext, -⟩ | ⟨hnext, -⟩ | ⟨t, hnext, hne, -⟩
        · rw [nextItem_of_error hf hnext] at h
          exact hnext.trans (Option.some.inj h)
        · simp [nextItem_of_end hf hnext] at h
        · rw [nextItem_of_ok hf hnext hne] at h
          exact hnext.trans (Option.some.inj h)

/-- An inquiry that is answered with an error has asked for the next token. -/
theorem next_of_ask_eq_error {e : LexicalError} (h : (s.ask i).1 = some (.error e)) :
    s.next.1 = .error e ∧ ∃ b, (s.ask i).2 = s.next.2.markedFinished b :=
  next_of_ask_eq_some h

/-! ## All inquiries -/

/-- What going on by one token leaves as it is stays over all inquiries. -/
theorem after_induct {P : Scanner → Prop}
    (hP : ∀ (s : Scanner) (b : Bool), P s → P (s.next.2.markedFinished b)) (h : P s)
    (inquiries : List Inquiry) : P (s.after inquiries) := by
  induction inquiries generalizing s with
  | nil => exact h
  | cons i inquiries ih =>
    rw [after]
    rcases ask_snd s i with ⟨-, hnone⟩ | ⟨b, -, hb⟩
    · rw [hnone]
      exact ih h
    · rw [hb]
      exact ih (hP s b h)

/-- A list that has ended stays ended. -/
theorem finished_after (h : s.finished = true) (inquiries : List Inquiry) :
    (s.after inquiries).finished = true := by
  induction inquiries generalizing s with
  | nil => exact h
  | cons i inquiries ih =>
    rw [after]
    rcases ask_snd s i with ⟨-, hnone⟩ | ⟨b, hfinished, hb⟩
    · rw [hnone]
      exact ih h
    · rw [hb]
      exact ih (hfinished h)

/-- A list that has come to its end or to an error has ended. -/
theorem finished_of_nextItem
    (h : s.nextItem.1 = none ∨ ∃ e, s.nextItem.1 = some (.error e)) :
    s.nextItem.2.finished = true := by
  cases hf : s.finished with
  | true =>
    rw [nextItem_of_finished hf]
    exact hf
  | false =>
    rcases s.next_cases with ⟨e, hnext, -⟩ | ⟨hnext, -⟩ | ⟨t, hnext, hne, -⟩
    · rw [nextItem_of_error hf hnext]
      rfl
    · rw [nextItem_of_end hf hnext]
      rfl
    · simp [nextItem_of_ok hf hnext hne] at h

/-- Going on by one token, the scanner stays in front of the same end. -/
theorem position_after_rest_next (s : Scanner) :
    s.next.2.position.after s.next.2.rest = s.position.after s.rest := by
  have hrest := congrArg s.position.after s.rest_eq
  rw [Position.after_append, Position.after_append] at hrest
  exact hrest.symm

/-- Behind what is left the source ends. -/
theorem position_after_rest (source : String) (asked : List Inquiry) :
    ((ofSource source).after asked).position.after ((ofSource source).after asked).rest =
      Position.start.after source.toList :=
  after_induct (P := fun s => s.position.after s.rest = _)
    (fun s _ h => s.position_after_rest_next.trans h) rfl asked

/-! ## The last answer -/

/-- Where the stream repeats an answer, it is the answer to every further request. -/
theorem settled_of_stream {a : TokenAnswer} (h : s.stream = ⟨[], a⟩) : s.Settled a := by
  intro inquiries
  have hstream : (s.after inquiries).stream = ⟨[], a⟩ := by
    refine after_induct (P := fun s => s.stream = ⟨[], a⟩) ?_ h inquiries
    intro s b h
    show s.next.2.stream = _
    rw [s.next_stream.2, h]
    rfl
  rw [(s.after inquiries).next_stream.1, hstream]
  rfl

/-- A request for a token takes a character, or it has found the answer of all further requests. -/
theorem next_progress (s : Scanner) :
    s.next.2.rest.length < s.rest.length ∨ s.next.2.Settled s.next.1 := by
  by_cases h : (Token.read (s.rest.dropWhile Text.isBlank)).taken = []
  · have hs : s.stream = ⟨[], s.next.1⟩ := streamFrom_of_taken_eq_nil s.position h
    refine .inr (settled_of_stream ?_)
    rw [s.next_stream.2, hs]
    rfl
  · exact .inl (length_rest_lt h)

/-- No inquiry leaves more text than there was. -/
theorem length_rest_ask_le (s : Scanner) (i : Inquiry) :
    (s.ask i).2.rest.length ≤ s.rest.length := by
  rcases ask_snd s i with ⟨-, hnone⟩ | ⟨b, -, hb⟩
  · rw [hnone]
  · have hread := Token.length_rest_read (s.rest.dropWhile Text.isBlank)
    have hdrop := (List.dropWhile_sublist (l := s.rest) Text.isBlank).length_le
    rw [hb]
    show (Token.read (s.rest.dropWhile Text.isBlank)).rest.length ≤ _
    omega

/-- After as many requests for a token as there are characters the last answer has been found. -/
theorem exists_settled (h : s.rest.length ≤ inquiries.count .token) :
    ∃ a, (s.after inquiries).Settled a := by
  induction inquiries generalizing s with
  | nil =>
    have hrest : s.rest = [] := List.length_eq_zero_iff.1 (Nat.le_zero.1 h)
    have hstream : s.stream = ⟨[], .ok ⟨.endOfSource, s.position⟩⟩ := by
      rw [stream, hrest, streamFrom_nil]
    exact ⟨_, settled_of_stream hstream⟩
  | cons i inquiries ih =>
    cases i with
    | token =>
      rw [List.count_cons_self] at h
      rcases s.next_progress with hlt | hsettled
      · exact ih (s := s.next.2) (by omega)
      · exact ⟨_, hsettled.after inquiries⟩
    | item =>
      rw [List.count_cons_of_ne (by decide)] at h
      exact ih (le_trans (s.length_rest_ask_le .item) h)

end Scanner

/-! ## The tokens -/

/-- The text at the place `p` begins with the lexemes of the tokens, with blanks or none in front of
each, and no lexeme goes on in the text behind it.  At the place `p'` the text `rest` is left. -/
inductive SplitsOff : Position → List Char → List (Located Token) → Position → List Char → Prop
  | nil {p : Position} {text : List Char} : SplitsOff p text [] p text
  | cons {p p' : Position} {blanks lexeme text rest : List Char} {t : Token}
      {ts : List (Located Token)} (hblanks : ∀ c ∈ blanks, Text.isBlank c = true)
      (hlexeme : Lexeme lexeme t) (hends : t.EndsBefore text)
      (hrest : SplitsOff ((p.after blanks).after lexeme) text ts p' rest) :
      SplitsOff p (blanks ++ (lexeme ++ text)) (⟨t, p.after blanks⟩ :: ts) p' rest

namespace Scanner

variable {s : Scanner} {i : Inquiry} {inquiries : List Inquiry}

/-- The next token is that of the next lexeme. -/
theorem splitsOff_of_next {t : Located Token} (h : s.next.1 = .ok t) (hne : t.item ≠ .endOfSource)
    {ts : List (Located Token)} {p : Position} {rest : List Char}
    (hrest : SplitsOff s.next.2.position s.next.2.rest ts p rest) :
    SplitsOff s.position s.rest (t :: ts) p rest := by
  obtain ⟨hread, hposition⟩ := answerAt_eq_ok h
  obtain ⟨hlexeme, (hends : t.item.EndsBefore s.next.2.rest)⟩ := lexeme_of_read hread hne
  have hsplits := SplitsOff.cons (fun _ hc => List.mem_takeWhile_imp hc) hlexeme hends hrest
  obtain ⟨item, q⟩ := t
  obtain rfl : q = s.position.after (s.rest.takeWhile Text.isBlank) := hposition
  rwa [← s.rest_eq] at hsplits

/-- In front of the first fault every way of asking gives the next token. -/
theorem ask_of_untilError_cons {t : Located Token} {ts : List (Located Token)}
    {fault : Option LexicalError} (hf : s.finished = false)
    (h : s.stream.untilError = (t :: ts, fault)) :
    s.next.1 = .ok t ∧ t.item ≠ .endOfSource ∧ s.ask i = (some (.ok t), s.next.2) ∧
      s.next.2.stream.untilError = (ts, fault) := by
  rcases s.next_cases with ⟨e, -, he⟩ | ⟨-, hend⟩ | ⟨t', hnext, hne, ht⟩
  · simp [h] at he
  · simp [h] at hend
  · rw [h] at ht
    obtain ⟨hcons, hfault⟩ := Prod.mk.inj ht
    obtain ⟨rfl, hts⟩ := List.cons.inj hcons
    refine ⟨hnext, hne, ?_, Prod.ext hts.symm hfault.symm⟩
    cases i with
    | token => rw [ask, hnext]
    | item => exact nextItem_of_ok hf hnext hne

/-- The first answers are the tokens in front of the first fault, one after the other. -/
theorem answers_of_length_le {ts : List (Located Token)} {fault : Option LexicalError}
    (hf : s.finished = false) (h : s.stream.untilError = (ts, fault))
    (hlength : inquiries.length ≤ ts.length) :
    s.answers inquiries = (ts.take inquiries.length).map (fun t => some (.ok t)) ∧
      SplitsOff s.position s.rest (ts.take inquiries.length) (s.after inquiries).position
        (s.after inquiries).rest ∧
      (s.after inquiries).finished = false ∧
      (s.after inquiries).stream.untilError = (ts.drop inquiries.length, fault) := by
  induction inquiries generalizing s ts with
  | nil => exact ⟨rfl, .nil, hf, h⟩
  | cons i inquiries ih =>
    cases ts with
    | nil => simp at hlength
    | cons t ts =>
      obtain ⟨hnext, hne, hask, htail⟩ := ask_of_untilError_cons (i := i) hf h
      obtain ⟨hanswers, hsplits, hfinished, huntil⟩ :=
        ih (s := s.next.2) hf htail (Nat.le_of_succ_le_succ hlength)
      rw [after, answers, hask, hanswers]
      exact ⟨rfl, splitsOff_of_next hnext hne hsplits, hfinished, huntil⟩

/-- Behind the tokens there is the fault, whichever way the scanner is asked. -/
theorem ask_of_fault {e : LexicalError} (hf : s.finished = false)
    (h : s.stream.untilError = ([], some e)) (i : Inquiry) : (s.ask i).1 = some (.error e) := by
  rcases s.next_cases with ⟨e', hnext, he⟩ | ⟨-, hend⟩ | ⟨t, -, -, ht⟩
  · rw [h] at he
    obtain rfl : e = e' := Option.some.inj (Prod.mk.inj he).2
    cases i with
    | token => exact congrArg some hnext
    | item => exact congrArg Prod.fst (nextItem_of_error hf hnext)
  · simp [h] at hend
  · simp [h] at ht

/-- Without a fault, the end of the text is behind the tokens. -/
theorem next_of_untilError_nil (h : s.stream.untilError = ([], none)) :
    s.next.1 = .ok ⟨.endOfSource, s.position.after s.rest⟩ := by
  rcases s.next_cases with ⟨e, -, he⟩ | ⟨hnext, -⟩ | ⟨t, -, -, ht⟩
  · simp [h] at he
  · exact hnext
  · simp [h] at ht

/-! ## Behind a fault -/

/-- Behind a number that is too large, the scanner goes on where its digits end. -/
theorem next_of_numberTooLarge {e : LexicalError} {numeral : String} (h : s.next.1 = .error e)
    (hfault : e.fault = .numberTooLarge numeral) :
    ∃ blanks negative digits, (∀ c ∈ blanks, Text.isBlank c = true) ∧ IsDigits digits ∧
      numeral.toList = signOf negative ++ digits ∧
      s.rest = blanks ++ (numeral.toList ++ s.next.2.rest) ∧
      (∀ n, (Token.integer n).EndsBefore s.next.2.rest) ∧
      e.position = s.position.after blanks ∧
      s.next.2.position = e.position.after numeral.toList := by
  obtain ⟨houtcome, hposition⟩ := answerAt_eq_error h
  rcases Token.read_eq_error houtcome with ⟨c, hc, -⟩ | ⟨hopen, -⟩ | ⟨-, hstart, hread⟩
  · simp [hfault] at hc
  · simp [hfault] at hopen
  · rw [hread] at houtcome
    obtain ⟨negative, digits, hdigits, htaken, hnumeral, hends⟩ :=
      Token.numeral_of_readNumber hstart houtcome
    rw [hfault, LexicalFault.numberTooLarge.injEq] at hnumeral
    have htext : numeral.toList = signOf negative ++ digits := by
      rw [hnumeral, String.toList_ofList]
    rw [← hread] at htaken hends
    refine ⟨s.rest.takeWhile Text.isBlank, negative, digits,
      fun _ hc => List.mem_takeWhile_imp hc, hdigits, htext, ?_, hends, hposition, ?_⟩
    · rw [htext, ← htaken]
      exact s.rest_eq
    · rw [htext, ← htaken, hposition]
      rfl

/-- Behind a stray character there is that character again. -/
theorem stream_of_strayCharacter {e : LexicalError} {c : Char} (h : s.next.1 = .error e)
    (hfault : e.fault = .strayCharacter c) : s.next.2.stream = ⟨[], .error e⟩ := by
  rw [s.next_stream.1] at h
  rcases tail_of_head_eq_error h with ⟨-, -, htail⟩ | ⟨hopen, -⟩ | ⟨numeral, hnumber⟩
  · exact s.next_stream.2.trans htail
  · simp [hfault] at hopen
  · simp [hfault] at hnumber

/-- Behind an open string there is the end of the text. -/
theorem stream_of_openString {e : LexicalError} (h : s.next.1 = .error e)
    (hfault : e.fault = .openString) :
    s.next.2.stream = ⟨[], .ok ⟨.endOfSource, s.position.after s.rest⟩⟩ := by
  rw [s.next_stream.1] at h
  rcases tail_of_head_eq_error h with ⟨c, hc, -⟩ | ⟨-, t, ht, htail⟩ | ⟨numeral, hnumber⟩
  · simp [hfault] at hc
  · have hstream : s.next.2.stream = ⟨[], .ok t⟩ := s.next_stream.2.trans htail
    have hposition : t.position = s.next.2.position.after s.next.2.rest :=
      position_of_final (congrArg TokenStream.final hstream)
    rw [position_after_rest_next] at hposition
    rw [hstream, ← ht, ← hposition]
  · simp [hfault] at hnumber

/-! ## Scanners of a source -/

/-- What is known of a scanner of the source that has been asked as listed and is `s` now. -/
structure Lawful (source : String) (asked : List Inquiry) (s : Scanner) : Prop where
  /-- As long as there have been no more inquiries than tokens in front of the first fault, the
  answers are these tokens, one after the other, and their lexemes have been taken. -/
  answers : ∀ ts fault, (streamOf source).untilError = (ts, fault) → asked.length ≤ ts.length →
    (ofSource source).answers asked = (ts.take asked.length).map (fun t => some (.ok t)) ∧
      SplitsOff .start source.toList (ts.take asked.length) s.position s.rest
  /-- Behind these tokens either way of asking is answered with the fault. -/
  fault : ∀ ts e, (streamOf source).untilError = (ts, some e) → asked.length = ts.length →
    ∀ i, (s.ask i).1 = some (.error e)
  /-- If there is no fault, then the list ends there, and the next token is the end. -/
  ending : ∀ ts, (streamOf source).untilError = (ts, none) → asked.length = ts.length →
    (s.ask .item).1 = none ∧
      (s.ask .token).1 = some (.ok ⟨.endOfSource, Position.start.after source.toList⟩)
  /-- A list that has come to its end or to an error has no further items, whatever is asked
  meanwhile. -/
  fused : (s.ask .item).1 = none ∨ (∃ e, (s.ask .item).1 = some (.error e)) →
    ∀ more, (((s.ask .item).2.after more).ask .item).1 = none
  /-- A request for a token takes at least one character, or its answer is that of all further
  requests. -/
  progress : (s.ask .token).2.rest.length < s.rest.length ∨
    ∃ a, (s.ask .token).1 = some a ∧ (s.ask .token).2.Settled a
  /-- A stray character is met again by every request for a token. -/
  stray : ∀ i e c, (s.ask i).1 = some (.error e) → e.fault = .strayCharacter c →
    (s.ask i).2.Settled (.error e)
  /-- Behind an open string there is the end. -/
  openString : ∀ i e, (s.ask i).1 = some (.error e) → e.fault = .openString →
    (s.ask i).2.Settled (.ok ⟨.endOfSource, Position.start.after source.toList⟩)
  /-- What has been taken for a number that is too large are blanks and all its digits, with the
  sign in front of them, and the scanner goes on behind them. -/
  tooLarge : ∀ i e numeral, (s.ask i).1 = some (.error e) → e.fault = .numberTooLarge numeral →
    ∃ blanks negative digits, (∀ c ∈ blanks, Text.isBlank c = true) ∧ IsDigits digits ∧
      numeral.toList = signOf negative ++ digits ∧
      s.rest = blanks ++ (numeral.toList ++ (s.ask i).2.rest) ∧
      (∀ n, (Token.integer n).EndsBefore (s.ask i).2.rest) ∧
      e.position = s.position.after blanks ∧
      (s.ask i).2.position = e.position.after numeral.toList
  /-- After as many requests for a token as there are characters, all further ones have the same
  answer. -/
  settled : source.length ≤ asked.count .token → ∃ a, s.Settled a

/-- However a scanner is asked, it gives the tokens of its source, and it comes to rest.  Only its
list has an end of its own, and only a number that is too large is followed by further tokens. -/
theorem lawful_of_asked (source : String) (asked : List Inquiry) :
    Lawful source asked ((ofSource source).after asked) where
  answers ts fault h hlength := by
    obtain ⟨hanswers, hsplits, -⟩ := answers_of_length_le (s := ofSource source) rfl h hlength
    exact ⟨hanswers, hsplits⟩
  fault ts e h hlength := by
    obtain ⟨-, -, hf, huntil⟩ := answers_of_length_le (s := ofSource source) rfl h hlength.le
    rw [List.drop_eq_nil_of_le hlength.ge] at huntil
    exact ask_of_fault hf huntil
  ending ts h hlength := by
    obtain ⟨-, -, hf, huntil⟩ := answers_of_length_le (s := ofSource source) rfl h hlength.le
    rw [List.drop_eq_nil_of_le hlength.ge] at huntil
    have hnext := next_of_untilError_nil huntil
    rw [position_after_rest] at hnext
    exact ⟨congrArg Prod.fst (nextItem_of_end hf hnext), congrArg some hnext⟩
  fused h more := by
    have hf := finished_after (finished_of_nextItem h) more
    exact congrArg Prod.fst (nextItem_of_finished hf)
  progress := by
    rcases next_progress ((ofSource source).after asked) with hlt | hsettled
    · exact .inl hlt
    · exact .inr ⟨_, rfl, hsettled⟩
  stray i e c h hfault := by
    obtain ⟨hnext, b, hb⟩ := next_of_ask_eq_error h
    rw [hb]
    exact settled_of_stream (stream_of_strayCharacter hnext hfault)
  openString i e h hfault := by
    obtain ⟨hnext, b, hb⟩ := next_of_ask_eq_error h
    have hstream := stream_of_openString hnext hfault
    rw [position_after_rest] at hstream
    rw [hb]
    exact settled_of_stream hstream
  tooLarge i e numeral h hfault := by
    obtain ⟨hnext, b, hb⟩ := next_of_ask_eq_error h
    rw [hb]
    exact next_of_numberTooLarge hnext hfault
  settled h := by
    rw [← String.length_toList] at h
    exact exists_settled (s := ofSource source) h

/-- The list ends with the number, and the next token is the one behind it. -/
example : (ofSource "a 9223372036854775808.b").answers [.item, .item, .item, .token] =
    [some (.ok ⟨.identifier "a", ⟨0, 1, 1⟩⟩),
      some (.error ⟨.numberTooLarge "9223372036854775808", ⟨2, 1, 3⟩⟩), none,
      some (.ok ⟨.dot, ⟨21, 1, 22⟩⟩)] := by cbv

end Scanner

end TemplateExpr
