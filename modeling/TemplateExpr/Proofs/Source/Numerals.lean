/-
# Numerals

Digits, with a minus sign in front of them or none, are the integer that they stand for, if 64 bits
hold it; otherwise they are too large, and the fault names all of them.  There is no third way:
leading zeros do not count, however many there are, and the least integer is one of its own.
Wherever a numeral stands in a source, the scanner goes on right behind it, also behind one that is
too large.  With a point among its digits no numeral is too large.

Main statements:
* `readsInteger_answerAt`: what digits without a point are;
* `next_of_read`, `stepsOver_of_read`: a scanner in front of a numeral;
* `tokensOf_of_read`: a source of one lexeme;
* `numerals_exact`: all numerals, alone and in any source.
-/
import TemplateExpr.Proofs.Source.Positions
import TemplateExpr.Proofs.Source.Printing

namespace TemplateExpr

variable {negative : Bool} {digits places rest : List Char}

/-! ## Readings of numerals -/

/-- The answer for the digits, behind a minus sign or none, at the place: the integer that they are,
or that they are too large for 64 bits. -/
inductive ReadsInteger (negative : Bool) (digits : List Char) (p : Position) : TokenAnswer → Prop
  | integer {n : Int64} (h : n.toInt = integerOf negative digits) :
      ReadsInteger negative digits p (.ok ⟨.integer n, p⟩)
  | tooLarge (h : integerOf negative digits < -2 ^ 63 ∨ 2 ^ 63 - 1 < integerOf negative digits) :
      ReadsInteger negative digits p
        (.error ⟨.numberTooLarge (String.ofList (signOf negative ++ digits)), p⟩)

/-- What reading the digits comes to. -/
def integerOutcome (negative : Bool) (digits : List Char) : Except LexicalFault Token :=
  (Token.ofNumeral? (signOf negative) digits []).elim
    (.error (.numberTooLarge (String.ofList (signOf negative ++ digits)))) .ok

/-- The float with the digits in front of the point and behind it. -/
def decimalOf (negative : Bool) (digits places : List Char) : Binary64 :=
  Binary64.ofRatio negative (Nat.ofDigitChars 10 (digits ++ places) 0) (tenPow places.length)

theorem read_integer (h : IsDigits digits) (hends : ∀ n, (Token.integer n).EndsBefore rest) :
    Token.read (signOf negative ++ digits ++ rest) =
      ⟨integerOutcome negative digits, signOf negative ++ digits, rest⟩ := by
  rw [List.append_assoc, Token.read_of_isDigits h, Token.readNumber_whole negative h hends]
  rfl

theorem read_decimal (h : IsDigits digits) (hplaces : IsDigits places)
    (hends : ∀ c ∈ rest.head?, c.isDigit = false) :
    Token.read (signOf negative ++ (digits ++ '.' :: places) ++ rest) =
      ⟨.ok (.float (decimalOf negative digits places)),
        signOf negative ++ (digits ++ '.' :: places), rest⟩ :=
  read_of_lexeme (.decimal h hplaces) hends

theorem readsInteger_answerAt (taken rest : List Char) (p : Position) :
    ReadsInteger negative digits p
      (Reading.answerAt ⟨integerOutcome negative digits, taken, rest⟩ p) := by
  rw [integerOutcome]
  cases htoken : Token.ofNumeral? (signOf negative) digits [] with
  | some t =>
    obtain ⟨n, rfl, hn⟩ := Token.ofNumeral?_nil_eq_some_iff.1 htoken
    exact .integer hn
  | none =>
    refine .tooLarge ?_
    by_contra! hrange
    -- an integer of 64 bits would have been read
    have hn : (Int64.ofInt (integerOf negative digits)).toInt = integerOf negative digits := by
      refine Int64.toInt_ofInt_of_le ?_ ?_ <;> omega
    rw [Token.ofNumeral?_nil_eq_some_iff.2 ⟨_, rfl, hn⟩] at htoken
    cases htoken

theorem integerOutcome_ne_endOfSource : integerOutcome negative digits ≠ .ok .endOfSource := by
  rw [integerOutcome]
  cases htoken : Token.ofNumeral? (signOf negative) digits [] with
  | some t =>
    obtain ⟨n, rfl, -⟩ := Token.ofNumeral?_nil_eq_some_iff.1 htoken
    simp
  | none => simp

/-! ## Scanners in front of a numeral -/

namespace Scanner

variable {s : Scanner} {text numeral blanks : List Char} {outcome : Except LexicalFault Token}

/-- A scanner in front of blanks and a text that is read. -/
theorem next_of_read (hblanks : ∀ c ∈ blanks, Text.isBlank c = true)
    (hfirst : ∃ c cs, numeral = c :: cs ∧ Text.isBlank c = false)
    (hrest : s.rest = blanks ++ (numeral ++ rest))
    (hread : Token.read (numeral ++ rest) = ⟨outcome, numeral, rest⟩) :
    s.next = (Reading.answerAt ⟨outcome, numeral, rest⟩ (s.position.after blanks),
      { s with rest := rest, position := (s.position.after blanks).after numeral }) := by
  have hhead : ∀ c ∈ (numeral ++ rest).head?, Text.isBlank c = false := by
    obtain ⟨c, cs, rfl, hc⟩ := hfirst
    rintro d ⟨⟩
    exact hc
  rw [next, hrest, takeWhile_append_of_head hblanks hhead, dropWhile_append_of_head hblanks hhead,
    hread]

/-- The numeral stands at the place in the text, and behind the next answer the scanner goes on
where the numeral ends. -/
structure StepsOver (s : Scanner) (text numeral rest : List Char) (p : Position) : Prop where
  place : ∃ before, text = before ++ (numeral ++ rest) ∧ p = Position.start.after before ∧
    p.offset = before.length
  rest : s.next.2.rest = rest
  position : s.next.2.position = p.after numeral

/-- A scanner in front of blanks and a numeral steps over it. -/
theorem stepsOver_of_read (h : s.StandsIn text) (hblanks : ∀ c ∈ blanks, Text.isBlank c = true)
    (hfirst : ∃ c cs, numeral = c :: cs ∧ Text.isBlank c = false)
    (hrest : s.rest = blanks ++ (numeral ++ rest))
    (hread : Token.read (numeral ++ rest) = ⟨outcome, numeral, rest⟩) :
    ∃ p, s.StepsOver text numeral rest p ∧
      s.next.1 = Reading.answerAt ⟨outcome, numeral, rest⟩ p := by
  obtain ⟨before, rfl, hposition⟩ := h
  have hnext := next_of_read hblanks hfirst hrest hread
  refine ⟨s.position.after blanks, ⟨⟨before ++ blanks, ?_, ?_, ?_⟩, ?_, ?_⟩, ?_⟩
  · rw [hrest, List.append_assoc]
  · rw [hposition, Position.after_append]
  · rw [hposition, ← Position.after_append, Position.offset_after]
    exact Nat.zero_add _
  all_goals rw [hnext]

/-- A source that ends behind its first token has no other one. -/
theorem tokensOf_eq_map_next {source : String} (hrest : (ofSource source).next.2.rest = [])
    (hne : ∀ t, (ofSource source).next.1 = .ok t → t.item ≠ .endOfSource) :
    tokensOf source = (ofSource source).next.1.map fun t => [t] := by
  have hcases := (ofSource source).next_cases
  rw [stream_ofSource] at hcases
  rcases hcases with ⟨e, hnext, huntil⟩ | ⟨hnext, -⟩ | ⟨t, hnext, -, huntil⟩
  · rw [hnext, tokensOf, huntil]
    rfl
  · exact absurd rfl (hne _ hnext)
  · have hend : (ofSource source).next.2.stream =
        ⟨[], .ok ⟨.endOfSource, (ofSource source).next.2.position⟩⟩ := by
      rw [stream, hrest, streamFrom_nil]
    rw [hend] at huntil
    rw [hnext, tokensOf, huntil]
    rfl

/-- A source that is read as a whole has one token, unless it is a fault. -/
theorem tokensOf_of_read (hfirst : ∃ c cs, numeral = c :: cs ∧ Text.isBlank c = false)
    (hread : Token.read (numeral ++ []) = ⟨outcome, numeral, []⟩)
    (hne : outcome ≠ .ok .endOfSource) :
    tokensOf (String.ofList numeral) =
      (Reading.answerAt ⟨outcome, numeral, []⟩ .start).map fun t => [t] := by
  have hrest : (ofSource (String.ofList numeral)).rest = [] ++ (numeral ++ []) := by
    rw [List.nil_append, List.append_nil]
    exact String.toList_ofList
  have hnext := next_of_read (List.forall_mem_nil _) hfirst hrest hread
  have hanswer : (ofSource (String.ofList numeral)).next.1 =
      Reading.answerAt ⟨outcome, numeral, []⟩ .start := congrArg Prod.fst hnext
  rw [← hanswer]
  refine tokensOf_eq_map_next (by rw [hnext]) fun t ht hend => hne ?_
  rw [hanswer] at ht
  rw [← hend]
  exact (answerAt_eq_ok ht).1

end Scanner

/-! ## All numerals -/

/-- The integer with the digits of an integer of 64 bits is that integer. -/
theorem tokensOf_toString (n : Int64) :
    tokensOf (toString n.toInt) = .ok [⟨.integer n, .start⟩] := by
  have hsplits : Splits .start ((toString n.toInt).toList ++ []) [⟨.integer n, .start⟩] :=
    .cons_lexeme (lexeme_integer n) (Token.endsBefore_of_blanked (by simp [Blanked]) _)
      (.nil (List.forall_mem_nil _))
  rw [List.append_nil] at hsplits
  exact tokensOf_eq_ok_iff.2 (untilError_of_splits hsplits)

/-- A source of digits, with a minus sign in front of them or none, has one token: the integer that
they are if 64 bits hold it, and otherwise the fault that all of them are too large.  The same is
answered wherever a scanner comes to such a numeral in any source, after any inquiries and with
blanks in front of it, if the numeral does not go on behind it; the answer is about its first
character, and the scanner goes on right behind its last one.  With digits behind a point, it is
always a float.  And the decimal text of every integer of 64 bits is that integer. -/
theorem numerals_exact :
    (∀ negative digits, IsDigits digits → ∃ a, ReadsInteger negative digits .start a ∧
      tokensOf (String.ofList (signOf negative ++ digits)) = a.map fun t => [t]) ∧
    (∀ source asked blanks negative digits rest, (∀ c ∈ blanks, Text.isBlank c = true) →
      IsDigits digits → (∀ n, (Token.integer n).EndsBefore rest) →
      ((Scanner.ofSource source).after asked).rest =
        blanks ++ (signOf negative ++ digits ++ rest) →
      ∃ p, ((Scanner.ofSource source).after asked).StepsOver source.toList
          (signOf negative ++ digits) rest p ∧
        ReadsInteger negative digits p ((Scanner.ofSource source).after asked).next.1) ∧
    (∀ negative digits places, IsDigits digits → IsDigits places →
      tokensOf (String.ofList (signOf negative ++ (digits ++ '.' :: places))) =
        .ok [⟨.float (decimalOf negative digits places), .start⟩]) ∧
    (∀ source asked blanks negative digits places rest, (∀ c ∈ blanks, Text.isBlank c = true) →
      IsDigits digits → IsDigits places → (∀ c ∈ rest.head?, c.isDigit = false) →
      ((Scanner.ofSource source).after asked).rest =
        blanks ++ (signOf negative ++ (digits ++ '.' :: places) ++ rest) →
      ∃ p, ((Scanner.ofSource source).after asked).StepsOver source.toList
          (signOf negative ++ (digits ++ '.' :: places)) rest p ∧
        ((Scanner.ofSource source).after asked).next.1 =
          .ok ⟨.float (decimalOf negative digits places), p⟩) ∧
    ∀ n : Int64, tokensOf (toString n.toInt) = .ok [⟨.integer n, .start⟩] := by
  have hfirst : ∀ {digits}, IsDigits digits → ∀ negative,
      ∃ c cs, signOf negative ++ digits = c :: cs ∧ Text.isBlank c = false := by
    intro digits h negative
    have hcons := h.exists_cons_sign negative []
    rwa [List.append_nil] at hcons
  have hends : ∀ n, (Token.integer n).EndsBefore [] :=
    fun n => Token.endsBefore_of_blanked (by simp [Blanked]) _
  refine ⟨?_, ?_, ?_, ?_, tokensOf_toString⟩
  · intro negative digits h
    exact ⟨_, readsInteger_answerAt _ _ _, Scanner.tokensOf_of_read (hfirst h negative)
      (read_integer h hends) integerOutcome_ne_endOfSource⟩
  · intro source asked blanks negative digits rest hblanks h hrest hscanner
    obtain ⟨p, hover, hnext⟩ := Scanner.stepsOver_of_read (Scanner.standsIn_after source asked)
      hblanks (hfirst h negative) hscanner (read_integer h hrest)
    refine ⟨p, hover, ?_⟩
    rw [hnext]
    exact readsInteger_answerAt _ _ _
  · intro negative digits places h hplaces
    exact Scanner.tokensOf_of_read (h.exists_cons_sign negative _)
      (read_decimal h hplaces (by simp)) (by simp)
  · intro source asked blanks negative digits places rest hblanks h hplaces hrest hscanner
    exact Scanner.stepsOver_of_read (Scanner.standsIn_after source asked) hblanks
      (h.exists_cons_sign negative _) hscanner (read_decimal h hplaces hrest)

/-- Behind a name and a blank, one more than the greatest integer is too large, and the scanner goes
on at the point behind it, which has no digit behind itself. -/
theorem numerals_exact_behind_name :
    ((Scanner.ofSource "a 9223372036854775808.b").after [.token]).rest =
        [' '] ++ (signOf false ++ "9223372036854775808".toList ++ ['.', 'b']) ∧
      ∃ p, ((Scanner.ofSource "a 9223372036854775808.b").after [.token]).StepsOver
          "a 9223372036854775808.b".toList "9223372036854775808".toList ['.', 'b'] p ∧
        ((Scanner.ofSource "a 9223372036854775808.b").after [.token]).next.1 =
          .error ⟨.numberTooLarge "9223372036854775808", p⟩ := by
  have hscanner : ((Scanner.ofSource "a 9223372036854775808.b").after [.token]).rest =
      [' '] ++ (signOf false ++ "9223372036854775808".toList ++ ['.', 'b']) := by cbv
  have hdigits : IsDigits "9223372036854775808".toList :=
    ⟨by decide +kernel, List.all_eq_true.1 (by decide +kernel)⟩
  have hends : ∀ n, (Token.integer n).EndsBefore ['.', 'b'] := by
    refine fun n => ⟨?_, ?_⟩
    · rintro c ⟨⟩
      decide
    · rintro c cs ⟨⟩
      decide
  refine ⟨hscanner, ?_⟩
  have hblanks : ∀ c ∈ [' '], Text.isBlank c = true := List.forall_mem_singleton.2 (by decide)
  obtain ⟨p, hover, hreads⟩ := numerals_exact.2.1 _ _ _ false _ _ hblanks hdigits hends hscanner
  refine ⟨p, hover, ?_⟩
  generalize ((Scanner.ofSource "a 9223372036854775808.b").after [.token]).next.1 = a at hreads ⊢
  cases hreads with
  | @integer n hn =>
    have hlt := n.toInt_lt
    have hvalue : integerOf false "9223372036854775808".toList = 2 ^ 63 := by decide +kernel
    omega
  | tooLarge => rfl

end TemplateExpr
