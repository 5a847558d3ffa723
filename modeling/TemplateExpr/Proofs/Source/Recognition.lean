/-
# Reading lexemes

A lexeme is read as its token where it cannot go on in the text behind it, and nothing else is ever
read as a token: each reader takes as many characters as it can.

Main statements:
* `read_of_lexeme`: a lexeme that does not go on is read as its token;
* `lexeme_of_read`: what is read as a token is a lexeme that does not go on.
-/
import Mathlib.Data.List.TakeWhile
import TemplateExpr.Proofs.Source.Lexeme

namespace TemplateExpr

/-! ## Runs of characters -/

section

variable {p : Char → Bool} {cs rest : List Char}

/-- Characters with the property are taken up to the first one without it. -/
theorem takeWhile_append_of_head (hcs : ∀ c ∈ cs, p c = true)
    (hrest : ∀ c ∈ rest.head?, p c = false) : (cs ++ rest).takeWhile p = cs := by
  rw [List.takeWhile_append_of_pos hcs]
  cases rest with
  | nil => exact List.append_nil cs
  | cons c rest => simp [hrest c rfl]

/-- Characters with the property are dropped up to the first one without it. -/
theorem dropWhile_append_of_head (hcs : ∀ c ∈ cs, p c = true)
    (hrest : ∀ c ∈ rest.head?, p c = false) : (cs ++ rest).dropWhile p = rest := by
  rw [List.dropWhile_append_of_pos hcs]
  cases rest with
  | nil => rfl
  | cons c rest => simp [hrest c rfl]

/-- The first character that is not dropped does not have the property. -/
theorem head_dropWhile (p : Char → Bool) (cs : List Char) :
    ∀ c ∈ (cs.dropWhile p).head?, p c = false := by
  intro c hc
  have hnot := List.head?_dropWhile_not p cs
  rwa [Option.mem_def.1 hc] at hnot

end

/-! ## Symbols -/

namespace Token

/-- A character that begins a text or a number begins no symbol. -/
theorem readSymbol?_of_startsText {c : Char} (h : startsText c = true) (cs : List Char) :
    readSymbol? (c :: cs) = none := by
  refine List.findSome?_eq_none_iff.2 ?_
  rintro ⟨symbol, t⟩ hmem
  obtain ⟨d, ds, rfl, hstart, -⟩ := startsText_of_mem_symbols hmem
  have hne : d ≠ c := by
    rintro rfl
    simp [h] at hstart
  simp [List.isPrefixOf, hne]

/-- Only where another symbol goes on with an equals sign it matters what is behind a symbol. -/
theorem readSymbol?_append_of_mem {symbol rest : List Char} {t : Token}
    (h : (symbol, t) ∈ symbols) (hends : t.EndsBefore rest) :
    readSymbol? (symbol ++ rest) = some ⟨.ok t, symbol, rest⟩ := by
  simp only [symbols, List.mem_cons, Prod.mk.injEq, List.not_mem_nil, or_false] at h
  rcases h with ⟨rfl, rfl⟩ | ⟨rfl, rfl⟩ | ⟨rfl, rfl⟩ | ⟨rfl, rfl⟩ | ⟨rfl, rfl⟩ | ⟨rfl, rfl⟩ |
    ⟨rfl, rfl⟩ | ⟨rfl, rfl⟩ | ⟨rfl, rfl⟩ | ⟨rfl, rfl⟩ | ⟨rfl, rfl⟩ | ⟨rfl, rfl⟩
  case inr.inr.inr.inr.inl | inr.inr.inr.inr.inr.inl =>
    cases rest with
    | nil => rfl
    | cons c rest =>
      have hne : '=' ≠ c := by
        rintro rfl
        exact hends rfl
      simp [readSymbol?, symbols, hne]
  all_goals rfl

/-- A symbol that is read is a lexeme, and the longest one. -/
theorem lexeme_of_readSymbol? {cs : List Char} {r : Reading} {t : Token}
    (h : readSymbol? cs = some r) (ht : r.outcome = .ok t) :
    Lexeme r.taken t ∧ t.EndsBefore r.rest := by
  obtain ⟨symbol, token, rest, hmem, rfl, rfl⟩ := readSymbol?_eq_some h
  obtain rfl := Except.ok.inj ht
  refine ⟨lexeme_of_mem_symbols hmem, ?_⟩
  -- with an equals sign behind it another symbol would have been read
  have hlonger : ∀ tail, readSymbol? ('<' :: '=' :: tail) =
      some ⟨.ok (.compare .lessEqual), ['<', '='], tail⟩ ∧
      readSymbol? ('>' :: '=' :: tail) =
        some ⟨.ok (.compare .greaterEqual), ['>', '='], tail⟩ := fun _ => ⟨rfl, rfl⟩
  simp only [symbols, List.mem_cons, Prod.mk.injEq, List.not_mem_nil, or_false] at hmem
  rcases hmem with ⟨rfl, rfl⟩ | ⟨rfl, rfl⟩ | ⟨rfl, rfl⟩ | ⟨rfl, rfl⟩ | ⟨rfl, rfl⟩ | ⟨rfl, rfl⟩ |
    ⟨rfl, rfl⟩ | ⟨rfl, rfl⟩ | ⟨rfl, rfl⟩ | ⟨rfl, rfl⟩ | ⟨rfl, rfl⟩ | ⟨rfl, rfl⟩
  case inr.inr.inr.inr.inl | inr.inr.inr.inr.inr.inl =>
    intro hhead
    obtain ⟨tail, rfl⟩ := List.head?_eq_some_iff.1 hhead
    simp [hlonger] at h
  all_goals trivial

end Token

/-! ## Quoted text -/

namespace Token

/-- There are two quotation marks. -/
theorem isQuote_iff {c : Char} : isQuote c = true ↔ c = '\x22' ∨ c = '\x27' := by
  simp [isQuote]

/-- A string ends at the first quotation mark of its kind. -/
theorem readString_append_quote {quote : Char} {inside : List Char} (h : quote ∉ inside)
    (rest : List Char) : readString quote (inside ++ quote :: rest) =
      ⟨.ok (.string (String.ofList inside)), quote :: (inside ++ [quote]), rest⟩ := by
  have hinside : ∀ c ∈ inside, (c != quote) = true := by
    intro c hc
    rw [bne_iff_ne]
    rintro rfl
    exact h hc
  have hrest : ∀ c ∈ (quote :: rest).head?, (c != quote) = false := by simp
  rw [readString, takeWhile_append_of_head hinside hrest, dropWhile_append_of_head hinside hrest]

/-- A string that has been read is a lexeme, and what is behind it does not matter. -/
theorem lexeme_of_readString {quote : Char} {cs : List Char} {t : Token}
    (hquote : isQuote quote = true) (h : (readString quote cs).outcome = .ok t) :
    Lexeme (readString quote cs).taken t ∧ t.EndsBefore (readString quote cs).rest := by
  have hhead := head_dropWhile (· != quote) cs
  have hinside : quote ∉ cs.takeWhile (· != quote) := by
    intro hmem
    simpa using List.mem_takeWhile_imp hmem
  unfold readString at h ⊢
  dsimp only at h ⊢
  split at h
  · simp at h
  · rename_i close rest hdrop
    obtain rfl := Except.ok.inj h
    obtain rfl : close = quote := by simpa [hdrop] using hhead
    exact ⟨.quoted (isQuote_iff.1 hquote) hinside, trivial⟩

end Token

/-! ## Numbers -/

/-- The digits at the front are digits if there is one. -/
theorem isDigits_takeWhile {c : Char} (h : c.isDigit = true) (cs : List Char) :
    IsDigits ((c :: cs).takeWhile Char.isDigit) :=
  ⟨by simp [h], fun _ hd => List.mem_takeWhile_imp hd⟩

namespace Token

/-- A digit is no sign. -/
theorem ne_minus_of_isDigit {c : Char} (h : c.isDigit = true) : c ≠ '-' := by
  rintro rfl
  revert h
  decide

/-- A text that begins with a number begins with a sign or none and a digit. -/
theorem startsNumber_iff {cs : List Char} : startsNumber cs = true ↔
    ∃ negative c ds, cs = signOf negative ++ c :: ds ∧ c.isDigit = true := by
  constructor
  · intro h
    unfold startsNumber at h
    split at h
    · exact ⟨true, _, _, rfl, h⟩
    · exact ⟨false, _, _, rfl, h⟩
    · simp at h
  · rintro ⟨negative, c, ds, rfl, hc⟩
    cases negative with
    | true => exact hc
    | false =>
      show startsNumber (c :: ds) = true
      unfold startsNumber
      split
      · rename_i heq
        exact absurd (List.cons.inj heq).1 (ne_minus_of_isDigit hc)
      · rename_i heq
        obtain ⟨rfl, -⟩ := List.cons.inj heq
        exact hc
      · rename_i heq
        simp at heq

/-- The sign in front of a digit is split off. -/
theorem splitSign_append_cons (negative : Bool) {c : Char} (h : c.isDigit = true)
    (cs : List Char) :
    splitSign (signOf negative ++ c :: cs) = (signOf negative, c :: cs) := by
  cases negative with
  | true => rfl
  | false =>
    show splitSign (c :: cs) = ([], c :: cs)
    unfold splitSign
    split
    · rename_i heq
      exact absurd (List.cons.inj heq).1 (ne_minus_of_isDigit h)
    · rfl

/-- A number has no sign in front of it exactly if it is not negative. -/
theorem isEmpty_signOf (negative : Bool) : (signOf negative).isEmpty = !negative := by
  cases negative <;> rfl

/-- Without a point, a number must fit 64 bits. -/
theorem ofNumeral?_nil_eq_some_iff {negative : Bool} {ds : List Char} {t : Token} :
    ofNumeral? (signOf negative) ds [] = some t ↔
      ∃ n : Int64, t = .integer n ∧ n.toInt = integerOf negative ds := by
  have hvalue : (if (signOf negative).isEmpty then (Nat.ofDigitChars 10 ds 0 : Int)
      else -(Nat.ofDigitChars 10 ds 0 : Int)) = integerOf negative ds := by
    cases negative <;> rfl
  simp only [ofNumeral?, hvalue, Option.ite_none_right_eq_some, Option.some.injEq]
  constructor
  · rintro ⟨⟨hmin, hmax⟩, rfl⟩
    refine ⟨_, rfl, Int64.toInt_ofInt_of_le hmin ?_⟩
    rw [Int64.toInt_maxValue] at hmax
    omega
  · rintro ⟨n, rfl, hn⟩
    rw [← hn]
    exact ⟨⟨Int64.minValue_le_toInt n, Int64.toInt_le n⟩, by rw [Int64.ofInt_toInt]⟩

/-- A numeral with places behind its point is the nearest number to their ratio. -/
theorem ofNumeral?_cons (negative : Bool) (ds places : List Char) :
    ofNumeral? (signOf negative) ds ('.' :: places) =
      some (.float (Binary64.ofRatio negative (Nat.ofDigitChars 10 (ds ++ places) 0)
        (tenPow places.length))) := by
  rw [ofNumeral?, isEmpty_signOf, Bool.not_not]

/-- A point is only read with a digit behind it. -/
theorem splitFraction_of_not_isDigit {rest : List Char}
    (h : ∀ c cs, rest = '.' :: c :: cs → c.isDigit = false) : splitFraction rest = ([], rest) := by
  unfold splitFraction
  split
  · rename_i c cs
    rw [if_neg]
    simp [h c cs rfl]
  · rfl

/-- The places behind a point are split off up to the first that is no digit. -/
theorem splitFraction_of_isDigits {places rest : List Char} (h : IsDigits places)
    (hrest : ∀ c ∈ rest.head?, c.isDigit = false) :
    splitFraction ('.' :: (places ++ rest)) = ('.' :: places, rest) := by
  have htake := takeWhile_append_of_head h.2 hrest
  have hdrop := dropWhile_append_of_head h.2 hrest
  obtain ⟨c, cs, rfl, hc⟩ := h.exists_cons
  rw [List.cons_append] at htake hdrop ⊢
  rw [splitFraction, if_pos hc, htake, hdrop]

/-- A number takes all digits, and a point with digits behind it. -/
theorem readNumber_append_digits (negative : Bool) {ds rest fraction tail : List Char}
    (hds : IsDigits ds) (hrest : ∀ c ∈ rest.head?, c.isDigit = false)
    (hsplit : splitFraction rest = (fraction, tail)) :
    readNumber (signOf negative ++ (ds ++ rest)) =
      ⟨(ofNumeral? (signOf negative) ds fraction).elim
        (.error (.numberTooLarge (String.ofList (signOf negative ++ ds ++ fraction)))) .ok,
        signOf negative ++ ds ++ fraction, tail⟩ := by
  have htake := takeWhile_append_of_head hds.2 hrest
  have hdrop := dropWhile_append_of_head hds.2 hrest
  obtain ⟨c, cs, rfl, hc⟩ := hds.exists_cons
  rw [List.cons_append] at htake hdrop ⊢
  simp only [readNumber, splitSign_append_cons negative hc, htake, hdrop, hsplit]
  cases ofNumeral? (signOf negative) (c :: cs) fraction <;> rfl

/-- Without a point a number takes its digits, and it is one of 64 bits or too large. -/
theorem readNumber_whole (negative : Bool) {ds rest : List Char} (hds : IsDigits ds)
    (hends : ∀ n, (Token.integer n).EndsBefore rest) :
    readNumber (signOf negative ++ (ds ++ rest)) =
      ⟨(ofNumeral? (signOf negative) ds []).elim
        (.error (.numberTooLarge (String.ofList (signOf negative ++ ds)))) .ok,
        signOf negative ++ ds, rest⟩ := by
  have hsplit := splitFraction_of_not_isDigit (hends 0).2
  have hrun := readNumber_append_digits negative hds (hends 0).1 hsplit
  rwa [List.append_nil] at hrun

/-- The spelling of an integer is read as that integer. -/
theorem readNumber_integer {negative : Bool} {ds rest : List Char} {n : Int64} (hds : IsDigits ds)
    (hn : n.toInt = integerOf negative ds) (hends : (Token.integer n).EndsBefore rest) :
    readNumber (signOf negative ++ ds ++ rest) =
      ⟨.ok (.integer n), signOf negative ++ ds, rest⟩ := by
  rw [List.append_assoc, readNumber_whole negative hds fun _ => hends,
    ofNumeral?_nil_eq_some_iff.2 ⟨n, rfl, hn⟩]
  rfl

/-- The spelling of a number with places is read as the number nearest to it. -/
theorem readNumber_decimal (negative : Bool) {ds places rest : List Char} (hds : IsDigits ds)
    (hplaces : IsDigits places) (hends : ∀ c ∈ rest.head?, c.isDigit = false) :
    readNumber (signOf negative ++ (ds ++ '.' :: places) ++ rest) =
      ⟨.ok (.float (Binary64.ofRatio negative (Nat.ofDigitChars 10 (ds ++ places) 0)
        (tenPow places.length))), signOf negative ++ (ds ++ '.' :: places), rest⟩ := by
  have hpoint : ∀ c ∈ ('.' :: (places ++ rest)).head?, c.isDigit = false := by
    rintro c ⟨⟩
    decide
  have hsplit := splitFraction_of_isDigits hplaces hends
  have hrun := readNumber_append_digits negative hds hpoint hsplit
  rw [ofNumeral?_cons] at hrun
  simpa using hrun

/-- A number is a sign or none and digits, and behind them is a point with digits or no such
point. -/
theorem exists_numeral {cs : List Char} (h : startsNumber cs = true) :
    ∃ negative ds rest, IsDigits ds ∧ cs = signOf negative ++ (ds ++ rest) ∧
      ((∃ places tail, IsDigits places ∧ rest = '.' :: (places ++ tail) ∧
        ∀ c ∈ tail.head?, c.isDigit = false) ∨ ∀ n, (Token.integer n).EndsBefore rest) := by
  obtain ⟨negative, c, unsigned, rfl, hc⟩ := startsNumber_iff.1 h
  have hrest := head_dropWhile Char.isDigit (c :: unsigned)
  refine ⟨negative, _, _, isDigits_takeWhile hc unsigned,
    congrArg _ (List.takeWhile_append_dropWhile (p := Char.isDigit)).symm, ?_⟩
  generalize (c :: unsigned).dropWhile Char.isDigit = rest at hrest ⊢
  by_cases hpoint : ∃ d tail, rest = '.' :: d :: tail ∧ d.isDigit = true
  · obtain ⟨d, tail, rfl, hd⟩ := hpoint
    exact .inl ⟨_, _, isDigits_takeWhile hd tail,
      congrArg _ (List.takeWhile_append_dropWhile (p := Char.isDigit)).symm,
      head_dropWhile Char.isDigit (d :: tail)⟩
  · refine .inr fun n => ⟨hrest, ?_⟩
    intro d tail htail
    cases hd : d.isDigit with
    | false => rfl
    | true => exact absurd ⟨d, tail, htail, hd⟩ hpoint

/-- A number that is read is a lexeme, and the longest one. -/
theorem lexeme_of_readNumber {cs : List Char} {t : Token} (hstart : startsNumber cs = true)
    (h : (readNumber cs).outcome = .ok t) :
    Lexeme (readNumber cs).taken t ∧ t.EndsBefore (readNumber cs).rest := by
  obtain ⟨negative, ds, rest, hds, rfl, ⟨places, tail, hplaces, rfl, hends⟩ | hends⟩ :=
    exists_numeral hstart
  · have hread := readNumber_decimal negative hds hplaces hends
    rw [List.append_assoc, List.append_assoc, List.cons_append] at hread
    rw [hread] at h ⊢
    obtain rfl := Except.ok.inj h
    exact ⟨.decimal hds hplaces, hends⟩
  · rw [readNumber_whole negative hds hends] at h ⊢
    cases htoken : ofNumeral? (signOf negative) ds [] with
    | none => simp [htoken] at h
    | some token =>
      rw [htoken] at h
      obtain rfl := Except.ok.inj h
      obtain ⟨n, rfl, hn⟩ := ofNumeral?_nil_eq_some_iff.1 htoken
      exact ⟨.integer hds hn, hends n⟩

end Token

/-! ## Words -/

namespace Token

/-- A word is read up to the first character that is no part of it. -/
theorem readWord_of_isWord {word : String} (h : IsWord word) {rest : List Char}
    (hrest : ∀ c ∈ rest.head?, isWordPart c = false) :
    readWord (word.toList ++ rest) = ⟨.ok (ofWord word), word.toList, rest⟩ := by
  obtain ⟨c, cs, hcs, hc, hparts⟩ := h
  have hall : ∀ d ∈ word.toList, isWordPart d = true := by
    rw [hcs]
    exact List.forall_mem_cons.2 ⟨isWordPart_of_isWordStart hc, hparts⟩
  rw [readWord, takeWhile_append_of_head hall hrest, dropWhile_append_of_head hall hrest,
    String.ofList_toList]

/-- A word that is read is a lexeme, and the longest one. -/
theorem lexeme_of_readWord {c : Char} {cs : List Char} {t : Token} (hc : isWordStart c = true)
    (h : (readWord (c :: cs)).outcome = .ok t) :
    Lexeme (readWord (c :: cs)).taken t ∧ t.EndsBefore (readWord (c :: cs)).rest := by
  have hword : IsWord (String.ofList ((c :: cs).takeWhile isWordPart)) := by
    refine ⟨c, cs.takeWhile isWordPart, ?_, hc, fun _ hd => List.mem_takeWhile_imp hd⟩
    rw [String.toList_ofList, List.takeWhile_cons_of_pos (isWordPart_of_isWordStart hc)]
  obtain rfl := Except.ok.inj h
  have hlexeme := lexeme_of_isWord hword
  rw [String.toList_ofList] at hlexeme
  exact ⟨hlexeme, (endsBefore_ofWord_iff hword).2 (head_dropWhile _ _)⟩

end Token

/-! ## All tokens -/

namespace Token

/-- At a quotation mark a string is read. -/
theorem read_of_isQuote {c : Char} (h : isQuote c = true) (cs : List Char) :
    read (c :: cs) = readString c cs := by
  simp [read, readSymbol?_of_startsText (c := c) (by simp [startsText, h]), h]

/-- At a digit, also behind a sign, a number is read. -/
theorem read_of_isDigit {c : Char} (h : c.isDigit = true) (negative : Bool) (cs : List Char) :
    read (signOf negative ++ c :: cs) = readNumber (signOf negative ++ c :: cs) := by
  have hnumber := startsNumber_iff.2 ⟨negative, c, cs, rfl, h⟩
  have hquote : ∀ d, d = '-' ∨ d.isDigit = true → isQuote d = false := by
    intro d hd
    rw [Bool.eq_false_iff, Ne, isQuote_iff]
    rintro (rfl | rfl) <;> revert hd <;> decide
  cases negative with
  | true =>
    simp only [signOf, if_true, List.singleton_append] at hnumber ⊢
    simp [read, readSymbol?_of_startsText (c := '-') (by simp [startsText]), hquote '-' (.inl rfl),
      hnumber]
  | false =>
    simp only [signOf, Bool.false_eq_true, if_false, List.nil_append] at hnumber ⊢
    simp [read, readSymbol?_of_startsText (c := c) (by simp [startsText, h]), hquote c (.inr h),
      hnumber]

/-- A number is read from a text that begins with digits, behind a sign or none. -/
theorem read_of_isDigits {ds : List Char} (h : IsDigits ds) (negative : Bool) (rest : List Char) :
    read (signOf negative ++ (ds ++ rest)) = readNumber (signOf negative ++ (ds ++ rest)) := by
  obtain ⟨c, cs, rfl, hc⟩ := h.exists_cons
  rw [List.cons_append, read_of_isDigit hc]

/-- What begins a word begins no number. -/
theorem startsNumber_of_isWordStart {c : Char} (h : isWordStart c = true) (cs : List Char) :
    startsNumber (c :: cs) = false := by
  rw [Bool.eq_false_iff, Ne, startsNumber_iff]
  rintro ⟨negative, d, ds, heq, hd⟩
  cases negative with
  | true =>
    obtain ⟨rfl, -⟩ := List.cons.inj heq
    revert h
    decide
  | false =>
    obtain ⟨rfl, -⟩ := List.cons.inj heq
    simp [isWordStart_of_isDigit hd] at h

/-- A word is read from a text that begins with one. -/
theorem read_of_isWordStart {c : Char} (h : isWordStart c = true) (cs : List Char) :
    read (c :: cs) = readWord (c :: cs) := by
  have hquote : isQuote c = false := by
    rw [Bool.eq_false_iff, Ne, isQuote_iff]
    rintro (rfl | rfl) <;> revert h <;> decide
  simp [read, readSymbol?_of_startsText (c := c) (by simp [startsText, h]), hquote,
    startsNumber_of_isWordStart h, h]

/-- At the beginning of a word the word is read. -/
theorem read_of_isWord {word : String} (h : IsWord word) {rest : List Char}
    (hrest : ∀ c ∈ rest.head?, isWordPart c = false) :
    read (word.toList ++ rest) = ⟨.ok (ofWord word), word.toList, rest⟩ := by
  rw [← readWord_of_isWord h hrest]
  obtain ⟨c, cs, hcs, hc, -⟩ := h
  rw [hcs, List.cons_append, read_of_isWordStart hc]

end Token

variable {lexeme rest : List Char} {t : Token}

/-- A lexeme that does not go on is read as its token. -/
theorem read_of_lexeme (h : Lexeme lexeme t) (hends : t.EndsBefore rest) :
    Token.read (lexeme ++ rest) = ⟨.ok t, lexeme, rest⟩ := by
  cases h with
  | punctuation hmem =>
    have hread := Token.readSymbol?_append_of_mem (Token.mem_symbols_of_punctuation hmem) hends
    simp only [Token.read, hread]
  | comparison op =>
    have hread := Token.readSymbol?_append_of_mem (Token.mem_symbols_of_comparison op) hends
    simp only [Token.read, hread]
  | @quoted quote inside hquote hinside =>
    rw [List.cons_append, Token.read_of_isQuote (Token.isQuote_iff.2 hquote), List.append_assoc]
    exact Token.readString_append_quote hinside rest
  | integer hds hn =>
    rw [← Token.readNumber_integer hds hn hends, List.append_assoc, Token.read_of_isDigits hds]
  | decimal hds hplaces =>
    rw [← Token.readNumber_decimal _ hds hplaces hends, List.append_assoc, List.append_assoc,
      Token.read_of_isDigits hds]
  | @keyword word _ hmem =>
    obtain ⟨hword, rfl⟩ := Token.isWord_of_mem_keywords hmem
    exact Token.read_of_isWord hword ((Token.endsBefore_ofWord_iff hword).1 hends)
  | @name name hname =>
    have hread := Token.read_of_isWord hname.1 hends
    rwa [Token.ofWord_of_isName hname] at hread

/-- What is read as a token is a lexeme, and the longest one. -/
theorem lexeme_of_read {cs : List Char} (h : (Token.read cs).outcome = .ok t)
    (hne : t ≠ .endOfSource) :
    Lexeme (Token.read cs).taken t ∧ t.EndsBefore (Token.read cs).rest := by
  have hread := Token.readAs_read cs
  generalize Token.read cs = r at h hread ⊢
  cases hread with
  | symbol hsymbol => exact Token.lexeme_of_readSymbol? hsymbol h
  | ending => exact absurd (Except.ok.inj h).symm hne
  | string hquote => exact Token.lexeme_of_readString hquote h
  | number hstart => exact Token.lexeme_of_readNumber hstart h
  | word hword => exact Token.lexeme_of_readWord hword h
  | stray => simp at h

end TemplateExpr
