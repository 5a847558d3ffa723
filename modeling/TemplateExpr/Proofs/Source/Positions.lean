/-
# Places in a text

Every answer of a scanner is about a place in its text, and it says what stands there: a lexeme, the
end, or what cannot be read.  The line and the column of a place are counted along the way, one
character after the other; they always come to what the text in front of the place says by itself,
whatever has been read in it and however often reading it has failed.

Main statements:
* `marks_after`: lines and columns that are counted along the way;
* `describes_answerAt`: what stands where an answer is about;
* `locates_of_mem_answers`: every answer is about its place in the text;
* `pairwise_answers`: behind a token every answer is about a later place.
-/
import Mathlib.Data.List.DropRight
import TemplateExpr.Proofs.Source.Inquiries

namespace TemplateExpr

/-! ## Lines and columns -/

namespace Position

/-- The place is one of the text, and its line and its column are those that the text gives it. -/
structure Marks (p : Position) (text : List Char) : Prop where
  /-- A character of the text stands there, or it is the end. -/
  offset_le : p.offset ≤ text.length
  /-- The line feeds in front of the place are counted. -/
  line : p.line = 1 + (text.take p.offset).count '\n'
  /-- The characters between the last of them and the place are counted. -/
  column : p.column = 1 + ((text.take p.offset).rtakeWhile (· != '\n')).length

/-- The line is one more than the number of line breaks so far. -/
theorem line_after (cs : List Char) : (start.after cs).line = 1 + cs.count '\n' := by
  induction cs using List.reverseRecOn with
  | nil => rfl
  | append_singleton cs c ih =>
    rw [after_append, after_cons, after_nil, next, List.count_append, List.count_singleton]
    by_cases hc : c = '\n'
    · simp [hc, ih, Nat.add_assoc]
    · simp [hc, ih]

/-- The column is one more than the number of characters since the last line break. -/
theorem column_after (cs : List Char) :
    (start.after cs).column = 1 + (cs.rtakeWhile (· != '\n')).length := by
  induction cs using List.reverseRecOn with
  | nil => rfl
  | append_singleton cs c ih =>
    rw [after_append, after_cons, after_nil, next, List.rtakeWhile_concat]
    by_cases hc : c = '\n'
    · simp [hc]
    · simp [hc, ih, Nat.add_assoc]

/-- The place behind some characters is one of every text that begins with them. -/
theorem marks_after (before rest : List Char) : (start.after before).Marks (before ++ rest) := by
  have hoffset : (start.after before).offset = before.length := by
    rw [offset_after]
    exact Nat.zero_add _
  have htake : (before ++ rest).take (start.after before).offset = before := by
    rw [hoffset, List.take_left]
  constructor
  · rw [hoffset, List.length_append]
    omega
  · rw [htake, line_after]
  · rw [htake, column_after]

/-- Behind as many characters as the offset says, the rest of the text begins. -/
theorem drop_offset_after (before rest : List Char) :
    (before ++ rest).drop (start.after before).offset = rest := by
  rw [offset_after]
  exact List.drop_left' (Nat.zero_add _).symm

end Position

/-! ## Answers -/

/-- The place that an answer is about. -/
def TokenAnswer.position : TokenAnswer → Position
  | .ok t => t.position
  | .error e => e.position

/-- The answer says what the text begins with. -/
inductive Describes : TokenAnswer → List Char → Prop
  | token {t : Located Token} {lexeme rest : List Char} (h : Lexeme lexeme t.item)
      (hends : t.item.EndsBefore rest) : Describes (.ok t) (lexeme ++ rest)
  | ending {t : Located Token} (h : t.item = .endOfSource) : Describes (.ok t) []
  /-- A quote without its partner. -/
  | openString {e : LexicalError} {quote : Char} {inside : List Char}
      (h : e.fault = .openString) (hquote : quote = '\x22' ∨ quote = '\x27')
      (hinside : quote ∉ inside) : Describes (.error e) (quote :: inside)
  /-- All digits of the number and the sign in front of them. -/
  | numberTooLarge {e : LexicalError} {negative : Bool} {digits rest : List Char}
      (h : e.fault = .numberTooLarge (String.ofList (signOf negative ++ digits)))
      (hdigits : IsDigits digits) (hends : ∀ n, (Token.integer n).EndsBefore rest) :
      Describes (.error e) (signOf negative ++ digits ++ rest)
  | strayCharacter {e : LexicalError} {c : Char} {rest : List Char}
      (h : e.fault = .strayCharacter c) : Describes (.error e) (c :: rest)

/-- An answer is about the place where the reading began. -/
theorem position_answerAt (r : Reading) (p : Position) :
    TokenAnswer.position (r.answerAt p) = p := by
  unfold Reading.answerAt
  split <;> rfl

namespace Token

/-- In a string that is open its quotation mark does not stand. -/
theorem not_mem_of_readString {quote : Char} {cs : List Char} {fault : LexicalFault}
    (h : (readString quote cs).outcome = .error fault) : quote ∉ cs := by
  unfold readString at h
  dsimp only at h
  split at h
  · rename_i hdrop
    intro hmem
    simpa using List.dropWhile_eq_nil_iff.1 hdrop quote hmem
  · simp at h

end Token

/-- An error says what the text begins with. -/
theorem describes_of_read_eq_error {cs : List Char} {e : LexicalError}
    (h : (Token.read cs).outcome = .error e.fault) : Describes (.error e) cs := by
  have hread := Token.readAs_read cs
  have happend := Token.read_append cs
  generalize Token.read cs = r at h hread happend
  cases hread with
  | symbol hsymbol =>
    obtain ⟨symbol, t, rest, -, -, rfl⟩ := Token.readSymbol?_eq_some hsymbol
    simp at h
  | ending => simp at h
  | string hquote =>
    exact .openString (Token.readString_eq_error h).1 (Token.isQuote_iff.1 hquote)
      (Token.not_mem_of_readString h)
  | number hstart =>
    obtain ⟨negative, digits, hdigits, htaken, hfault, hends⟩ :=
      Token.numeral_of_readNumber hstart h
    rw [← happend, htaken]
    exact .numberTooLarge hfault hdigits hends
  | word => simp [Token.readWord] at h
  | stray c => exact .strayCharacter (Except.error.inj h).symm

/-- The answer for a text says what the text begins with. -/
theorem describes_answerAt (cs : List Char) (p : Position) :
    Describes ((Token.read cs).answerAt p) cs := by
  cases hanswer : (Token.read cs).answerAt p with
  | error e => exact describes_of_read_eq_error (answerAt_eq_error hanswer).1
  | ok t =>
    have houtcome := (answerAt_eq_ok hanswer).1
    rcases Token.read_eq_ok houtcome with ⟨hend, rfl, -⟩ | ⟨hne, -⟩
    · exact .ending hend
    · obtain ⟨hlexeme, hends⟩ := lexeme_of_read houtcome hne
      have happend := Token.read_append cs
      generalize Token.read cs = r at hlexeme hends happend
      rw [← happend]
      exact .token hlexeme hends

/-- The answer is about a place in the text and says what stands there. -/
structure Locates (a : TokenAnswer) (text : List Char) : Prop where
  marks : a.position.Marks text
  describes : Describes a (text.drop a.position.offset)
  /-- The end of the source is the end of the text. -/
  ending : ∀ t, a = .ok t → t.item = .endOfSource → t.position.offset = text.length

namespace Scanner

variable {s : Scanner} {text : List Char} {asked : List Inquiry} {a : TokenAnswer}

/-! ## Scanners in a text -/

/-- What is left to the scanner is the end of the text, and it knows where that begins. -/
def StandsIn (s : Scanner) (text : List Char) : Prop :=
  ∃ before, text = before ++ s.rest ∧ s.position = Position.start.after before

/-- The next token is read in the text, behind some more characters. -/
theorem StandsIn.exists_read (h : s.StandsIn text) :
    ∃ before, text = before ++ s.rest.dropWhile Text.isBlank ∧
      s.position.after (s.rest.takeWhile Text.isBlank) = Position.start.after before := by
  obtain ⟨before, rfl, hposition⟩ := h
  refine ⟨before ++ s.rest.takeWhile Text.isBlank, ?_, ?_⟩
  · rw [List.append_assoc, List.takeWhile_append_dropWhile]
  · rw [hposition, Position.after_append]

/-- A scanner that stands in a text stands in it after an answer. -/
theorem StandsIn.next (h : s.StandsIn text) (b : Bool) :
    (s.next.2.markedFinished b).StandsIn text := by
  obtain ⟨before, rfl, hbefore⟩ := h.exists_read
  refine ⟨before ++ (Token.read (s.rest.dropWhile Text.isBlank)).taken, ?_, ?_⟩
  · show _ = _ ++ (Token.read (s.rest.dropWhile Text.isBlank)).rest
    rw [List.append_assoc, Token.read_append]
  · rw [Position.after_append, ← hbefore]
    rfl

/-- However it is asked, the scanner of a source stands in the source. -/
theorem standsIn_after (source : String) (asked : List Inquiry) :
    ((ofSource source).after asked).StandsIn source.toList :=
  after_induct (P := fun s => s.StandsIn source.toList) (fun _ b h => h.next b) ⟨[], rfl, rfl⟩ asked

/-- The next answer is about a place in the text. -/
theorem StandsIn.locates (h : s.StandsIn text) : Locates s.next.1 text := by
  obtain ⟨before, rfl, hbefore⟩ := h.exists_read
  have hposition : TokenAnswer.position s.next.1 = Position.start.after before :=
    (position_answerAt _ _).trans hbefore
  refine ⟨?_, ?_, ?_⟩
  · rw [hposition]
    exact Position.marks_after _ _
  · rw [hposition, Position.drop_offset_after]
    exact describes_answerAt _ _
  · intro t ht hend
    obtain ⟨hread, -⟩ := answerAt_eq_ok ht
    rw [ht] at hposition
    -- nothing is left where the end is read
    rcases Token.read_eq_ok hread with ⟨-, hnil, -⟩ | ⟨hne, -⟩
    · rw [hnil, List.append_nil]
      show (TokenAnswer.position (.ok t)).offset = _
      rw [hposition, Position.offset_after]
      exact Nat.zero_add _
    · exact absurd hend hne

/-- Every answer is the first one of the scanner at some moment. -/
theorem exists_next_of_mem_answers (h : some a ∈ s.answers asked) :
    ∃ before, a = (s.after before).next.1 := by
  induction asked generalizing s with
  | nil => simp [answers] at h
  | cons i asked ih =>
    rcases List.mem_cons.1 h with h | h
    · exact ⟨[], (next_of_ask_eq_some h.symm).1.symm⟩
    · obtain ⟨before, ha⟩ := ih h
      exact ⟨i :: before, ha⟩

/-- Every answer is about its place in the text. -/
theorem locates_of_mem_answers {source : String} (h : some a ∈ (ofSource source).answers asked) :
    Locates a source.toList := by
  obtain ⟨before, rfl⟩ := exists_next_of_mem_answers h
  exact (standsIn_after source before).locates

/-! ## The order of the answers -/

/-- Neither the place of an answer nor that of the scanner goes back. -/
theorem offset_le_next (s : Scanner) :
    s.position.offset ≤ (TokenAnswer.position s.next.1).offset ∧
      s.position.offset ≤ s.next.2.position.offset := by
  have hposition : TokenAnswer.position s.next.1 = _ := position_answerAt _ _
  have hnext : s.next.2.position.offset = (s.position.after
      (s.rest.takeWhile Text.isBlank)).offset +
        (Token.read (s.rest.dropWhile Text.isBlank)).taken.length := Position.offset_after _ _
  rw [hnext, hposition, Position.offset_after]
  omega

/-- A scanner never goes back. -/
theorem offset_le_after (s : Scanner) (asked : List Inquiry) :
    s.position.offset ≤ (s.after asked).position.offset :=
  after_induct (P := fun s' => s.position.offset ≤ s'.position.offset)
    (fun s' _ h => Nat.le_trans h s'.offset_le_next.2) (Nat.le_refl _) asked

/-- Behind a token the scanner has moved on. -/
theorem offset_lt_next {t : Located Token} (h : s.next.1 = .ok t) (hne : t.item ≠ .endOfSource) :
    t.position.offset < s.next.2.position.offset := by
  obtain ⟨hread, hposition⟩ := answerAt_eq_ok h
  have htaken : (Token.read (s.rest.dropWhile Text.isBlank)).taken ≠ [] := by
    rcases Token.read_eq_ok hread with ⟨hend, -⟩ | ⟨-, htaken⟩
    · exact absurd hend hne
    · exact htaken
  have hpos := List.length_pos_iff.2 htaken
  have hnext : s.next.2.position.offset = t.position.offset +
      (Token.read (s.rest.dropWhile Text.isBlank)).taken.length := by
    rw [hposition]
    exact Position.offset_after _ _
  omega

/-- Behind a token every answer is about a later place. -/
theorem pairwise_answers (s : Scanner) (asked : List Inquiry) :
    (s.answers asked).Pairwise fun first later => ∀ t a, first = some (.ok t) →
      t.item ≠ .endOfSource → later = some a → t.position.offset < a.position.offset := by
  induction asked generalizing s with
  | nil => exact .nil
  | cons i asked ih =>
    refine .cons ?_ (ih _)
    rintro later hlater t a hfirst hne rfl
    obtain ⟨hnext, b, hb⟩ := next_of_ask_eq_some hfirst
    obtain ⟨before, rfl⟩ := exists_next_of_mem_answers hlater
    calc t.position.offset < (s.ask i).2.position.offset := by
          rw [hb]
          exact offset_lt_next hnext hne
      _ ≤ ((s.ask i).2.after before).position.offset := offset_le_after _ _
      _ ≤ _ := (offset_le_next _).1

end Scanner

end TemplateExpr
