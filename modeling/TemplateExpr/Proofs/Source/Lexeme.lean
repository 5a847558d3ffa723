/-
# Lexemes

Which characters are which token: punctuation, the symbols of comparisons, quoted text, numerals,
keywords and names.  Some of them could go on in the text behind them, and then the token is
another one.

Main statements:
* `Lexeme.exists_cons`: a lexeme begins with a character that is no blank;
* `ofWord_cases`: a word is the keyword that it spells or a name.
-/
import TemplateExpr.Proofs.Grammar.Derivation
import TemplateExpr.Proofs.Source.Stream

namespace TemplateExpr

/-! ## Characters -/

namespace Text

/-- The blanks by their code points. -/
def blanks : List Nat :=
  [9, 10, 11, 12, 13, 32, 133, 160, 5760, 8192, 8193, 8194, 8195, 8196, 8197, 8198, 8199, 8200,
    8201, 8202, 8232, 8233, 8239, 8287, 12288]

/-- A blank is one of the blanks by its code point. -/
theorem toNat_mem_blanks {c : Char} (h : isBlank c = true) : c.toNat ∈ blanks := by
  obtain ⟨r, hr, hfirst, hlast⟩ := (inRanges_iff _ _).1 h
  simp only [blankRanges, List.mem_cons, List.not_mem_nil, or_false] at hr
  simp only [blanks, List.mem_cons, List.not_mem_nil, or_false]
  rcases hr with rfl | rfl | rfl | rfl | rfl | rfl | rfl | rfl | rfl | rfl <;>
    dsimp only at hfirst hlast <;> omega

end Text

namespace Token

/-- A blank ends a word. -/
theorem isWordPart_of_isBlank {c : Char} (h : Text.isBlank c = true) : isWordPart c = false := by
  have hall : ∀ n ∈ Text.blanks, isWordPart (Char.ofNat n) = false := by decide +kernel
  rw [← Char.ofNat_toNat c]
  exact hall _ (Text.toNat_mem_blanks h)

/-- A part of a word is no blank. -/
theorem isBlank_of_isWordPart {c : Char} (h : isWordPart c = true) : Text.isBlank c = false := by
  cases hb : Text.isBlank c with
  | false => rfl
  | true => simp [isWordPart_of_isBlank hb] at h

/-- A digit may stand inside a word. -/
theorem isWordPart_of_isDigit {c : Char} (h : c.isDigit = true) : isWordPart c = true := by
  simp [isWordPart, Text.isNumeric_of_isDigit h]

/-- A digit begins no word. -/
theorem isWordStart_of_isDigit {c : Char} (h : c.isDigit = true) : isWordStart c = false := by
  have hall : ∀ n < 128, (Char.ofNat n).isDigit = true → isWordStart (Char.ofNat n) = false := by
    decide +kernel
  have hword := hall c.toNat (Text.toNat_lt_of_isDigit h)
  rw [Char.ofNat_toNat] at hword
  exact hword h

/-- The character begins a quoted text, a numeral or a word. -/
def startsText (c : Char) : Bool := isQuote c || c == '-' || c.isDigit || isWordStart c

/-- A symbol begins with a character that begins nothing else. -/
theorem startsText_of_mem_symbols {symbol : List Char} {t : Token} (h : (symbol, t) ∈ symbols) :
    ∃ c cs, symbol = c :: cs ∧ startsText c = false ∧ Text.isBlank c = false := by
  have hall : ∀ q ∈ symbols, q.1.head?.any (fun c => !startsText c && !Text.isBlank c) = true := by
    decide +kernel
  obtain ⟨c, hc, hboth⟩ := (Option.any_eq_true _ _).1 (hall _ h)
  obtain ⟨cs, hcs⟩ := List.head?_eq_some_iff.1 hc
  simp only [Bool.and_eq_true, Bool.not_eq_true'] at hboth
  exact ⟨c, cs, hcs, hboth⟩

/-! ## Lexemes -/

/-- The text is a letter or an underscore, and then letters, digits and underscores. -/
def IsWord (word : String) : Prop :=
  ∃ c cs, word.toList = c :: cs ∧ isWordStart c = true ∧ ∀ d ∈ cs, isWordPart d = true

/-- The text is a word and no keyword. -/
def IsName (name : String) : Prop := IsWord name ∧ ∀ t, (name, t) ∉ keywords

/-- The tokens of one character that are no comparisons. -/
def punctuation : List (Char × Token) :=
  [('.', .dot), ('|', .pipe), ('(', .openParen), (')', .closeParen), ('[', .openBracket),
    (']', .closeBracket)]

end Token

/-- The characters are digits, and there is at least one. -/
def IsDigits (ds : List Char) : Prop := ds ≠ [] ∧ ∀ d ∈ ds, d.isDigit = true

/-- What stands in front of the digits of a number. -/
def signOf (negative : Bool) : List Char := if negative then ['-'] else []

/-- The integer with the given digits. -/
def integerOf (negative : Bool) (digits : List Char) : Int :=
  if negative then -(Nat.ofDigitChars 10 digits 0 : Int) else Nat.ofDigitChars 10 digits 0

/-- The characters are a lexeme of the token. -/
inductive Lexeme : List Char → Token → Prop
  | punctuation {c : Char} {t : Token} (h : (c, t) ∈ Token.punctuation) : Lexeme [c] t
  | comparison (op : Comparison) : Lexeme op.symbol.toList (.compare op)
  /-- Between two quotes of one kind there is none of that kind. -/
  | quoted {quote : Char} {inside : List Char} (hquote : quote = '\x22' ∨ quote = '\x27')
      (hinside : quote ∉ inside) :
      Lexeme (quote :: (inside ++ [quote])) (.string (String.ofList inside))
  /-- The digits of an integer of 64 bits. -/
  | integer {negative : Bool} {digits : List Char} {n : Int64} (hdigits : IsDigits digits)
      (hn : n.toInt = integerOf negative digits) : Lexeme (signOf negative ++ digits) (.integer n)
  /-- Any digits with a point among them. -/
  | decimal {negative : Bool} {digits places : List Char} (hdigits : IsDigits digits)
      (hplaces : IsDigits places) :
      Lexeme (signOf negative ++ (digits ++ '.' :: places))
        (.float (Binary64.ofRatio negative (Nat.ofDigitChars 10 (digits ++ places) 0)
          (tenPow places.length)))
  | keyword {word : String} {t : Token} (h : (word, t) ∈ Token.keywords) : Lexeme word.toList t
  | name {name : String} (h : Token.IsName name) : Lexeme name.toList (.identifier name)

/-- The lexeme of the token does not go on in the text behind it. -/
def Token.EndsBefore : Token → List Char → Prop
  | .integer _, rest =>
    (∀ c ∈ rest.head?, c.isDigit = false) ∧ ∀ c cs, rest = '.' :: c :: cs → c.isDigit = false
  | .float _, rest => ∀ c ∈ rest.head?, c.isDigit = false
  | .compare .less, rest => rest.head? ≠ some '='
  | .compare .greater, rest => rest.head? ≠ some '='
  | .identifier _, rest => ∀ c ∈ rest.head?, isWordPart c = false
  | .logical _, rest => ∀ c ∈ rest.head?, isWordPart c = false
  | .contains, rest => ∀ c ∈ rest.head?, isWordPart c = false
  | .boolean _, rest => ∀ c ∈ rest.head?, isWordPart c = false
  | .nil, rest => ∀ c ∈ rest.head?, isWordPart c = false
  | _, _ => True

/-- The text ends here or goes on with a blank. -/
def Blanked (rest : List Char) : Prop := ∀ c ∈ rest.head?, Text.isBlank c = true

/-- The end of the text counts as a blank. -/
theorem blanked_nil : Blanked [] := by
  rintro c ⟨⟩

/-- A text that begins with a blank goes on with one. -/
theorem blanked_cons {c : Char} (h : Text.isBlank c = true) (rest : List Char) :
    Blanked (c :: rest) := by
  rintro d ⟨⟩
  exact h

/-- No lexeme goes on with a character that is no part of a word, no point and no equals sign. -/
theorem Token.endsBefore_of_head {rest : List Char}
    (h : ∀ c ∈ rest.head?, isWordPart c = false ∧ c ≠ '.' ∧ c ≠ '=') (t : Token) :
    t.EndsBefore rest := by
  have hword : ∀ c ∈ rest.head?, isWordPart c = false := fun c hc => (h c hc).1
  have hdigit : ∀ c ∈ rest.head?, c.isDigit = false := by
    intro c hc
    rw [Bool.eq_false_iff]
    intro hd
    simpa [isWordPart_of_isDigit hd] using hword c hc
  have hpoint : ∀ c cs, rest = '.' :: c :: cs → c.isDigit = false := by
    rintro c cs rfl
    exact absurd rfl (h '.' rfl).2.1
  have hequals : rest.head? ≠ some '=' := fun hhead => (h '=' hhead).2.2 rfl
  cases t with
  | integer n => exact ⟨hdigit, hpoint⟩
  | float x => exact hdigit
  | compare op =>
    cases op with
    | less | greater => exact hequals
    | equal | notEqual | lessEqual | greaterEqual => trivial
  | identifier | logical | contains | boolean | nil => exact hword
  | _ => trivial

/-- No lexeme goes on with a blank. -/
theorem Token.endsBefore_of_blanked {rest : List Char} (h : Blanked rest) (t : Token) :
    t.EndsBefore rest := by
  have hne : ∀ c ∈ rest.head?, ∀ d, Text.isBlank d = false → c ≠ d := by
    rintro c hc d hd rfl
    simp [h c hc] at hd
  apply endsBefore_of_head
  intro c hc
  exact ⟨isWordPart_of_isBlank (h c hc), hne c hc '.' (by decide), hne c hc '=' (by decide)⟩

/-- A lexeme that does not go on in a text does not go on in its beginning either, if what comes
instead of the rest goes on with no lexeme. -/
theorem Token.EndsBefore.of_agree {t : Token} {front back back' : List Char}
    (h : t.EndsBefore (front ++ back)) (hback' : ∀ u : Token, u.EndsBefore back') :
    t.EndsBefore (front ++ back') := by
  cases front with
  | nil => exact hback' t
  | cons c front =>
    cases t with
    | integer n =>
      refine ⟨h.1, ?_⟩
      intro d ds hds
      obtain ⟨rfl, htail⟩ := List.cons.inj hds
      cases front with
      | nil =>
        -- no integer goes on there, so it does not begin with a digit
        obtain rfl : back' = d :: ds := htail
        exact (hback' (.integer n)).1 d rfl
      | cons e front =>
        obtain ⟨rfl, -⟩ := List.cons.inj htail
        exact h.2 e _ rfl
    | compare op => cases op <;> exact h
    | _ => exact h

/-- Nor does it go on in a longer text, if what comes behind goes on with no lexeme. -/
theorem Token.EndsBefore.append {t : Token} {rest back : List Char} (h : t.EndsBefore rest)
    (hback : ∀ u : Token, u.EndsBefore back) : t.EndsBefore (rest ++ back) := by
  have hnil : t.EndsBefore (rest ++ []) := by rwa [List.append_nil]
  exact hnil.of_agree hback

/-! ## Symbols -/

namespace Token

/-- The symbols are the punctuation and the comparisons. -/
theorem lexeme_of_mem_symbols {symbol : List Char} {t : Token} (h : (symbol, t) ∈ symbols) :
    Lexeme symbol t := by
  simp only [symbols, List.mem_cons, Prod.mk.injEq, List.not_mem_nil, or_false] at h
  rcases h with ⟨rfl, rfl⟩ | ⟨rfl, rfl⟩ | ⟨rfl, rfl⟩ | ⟨rfl, rfl⟩ | ⟨rfl, rfl⟩ | ⟨rfl, rfl⟩ |
    ⟨rfl, rfl⟩ | ⟨rfl, rfl⟩ | ⟨rfl, rfl⟩ | ⟨rfl, rfl⟩ | ⟨rfl, rfl⟩ | ⟨rfl, rfl⟩
  · exact .comparison .equal
  · exact .comparison .notEqual
  · exact .comparison .lessEqual
  · exact .comparison .greaterEqual
  · exact .comparison .less
  · exact .comparison .greater
  all_goals exact .punctuation (by decide)

/-- The comparisons are symbols. -/
theorem mem_symbols_of_comparison (op : Comparison) :
    (op.symbol.toList, .compare op) ∈ symbols := by
  cases op <;> decide

/-- The marks of one character are symbols. -/
theorem mem_symbols_of_punctuation {c : Char} {t : Token} (h : (c, t) ∈ punctuation) :
    ([c], t) ∈ symbols := by
  have hall : ∀ q ∈ punctuation, ([q.1], q.2) ∈ symbols := by decide
  exact hall _ h

end Token

/-! ## Words -/

namespace Token

/-- A keyword is a word, and its token is that of the word. -/
theorem isWord_of_mem_keywords {word : String} {t : Token} (h : (word, t) ∈ keywords) :
    IsWord word ∧ ofWord word = t := by
  have hall : ∀ q ∈ keywords, ∃ c cs, q.1.toList = c :: cs ∧ isWordStart c = true ∧
      cs.all isWordPart = true ∧ ofWord q.1 = q.2 := by
    simp only [keywords, List.forall_mem_cons, List.not_mem_nil, false_imp_iff, implies_true,
      and_true]
    refine ⟨?_, ?_, ?_, ?_, ?_, ?_⟩ <;> exact ⟨_, _, rfl, by decide, by decide, by decide⟩
  obtain ⟨c, cs, hcs, hc, hparts, hof⟩ := hall _ h
  exact ⟨⟨c, cs, hcs, hc, List.all_eq_true.1 hparts⟩, hof⟩

/-- A word is the keyword that it spells or a name. -/
theorem ofWord_cases {word : String} (h : IsWord word) :
    (word, ofWord word) ∈ keywords ∨ IsName word ∧ ofWord word = .identifier word := by
  cases hlookup : keywords.lookup word with
  | some t =>
    left
    obtain ⟨l, r, hlr, -⟩ := List.lookup_eq_some_iff.1 hlookup
    rw [ofWord, hlookup, Option.getD_some, hlr]
    simp
  | none =>
    right
    refine ⟨⟨h, ?_⟩, ofWord_of_lookup_eq_none hlookup⟩
    intro t ht
    have hne := List.lookup_eq_none_iff.1 hlookup _ ht
    simp at hne

/-- The token of a name is the identifier. -/
theorem ofWord_of_isName {name : String} (h : IsName name) : ofWord name = .identifier name := by
  rcases ofWord_cases h.1 with hmem | ⟨-, hof⟩
  · exact absurd hmem (h.2 _)
  · exact hof

/-- A word of any kind is a lexeme. -/
theorem lexeme_of_isWord {word : String} (h : IsWord word) : Lexeme word.toList (ofWord word) := by
  rcases ofWord_cases h with hmem | ⟨hname, hof⟩
  · exact .keyword hmem
  · rw [hof]
    exact .name hname

/-- Behind a point every word is the name of an attribute. -/
theorem namesAttribute_ofWord {word : String} (h : IsWord word) :
    NamesAttribute (ofWord word) word := by
  rcases ofWord_cases h with hmem | ⟨-, hof⟩
  · exact .keyword hmem
  · rw [hof]
    exact .identifier word

/-- A word ends where no further character is part of it. -/
theorem endsBefore_ofWord_iff {word : String} (h : IsWord word) {rest : List Char} :
    (ofWord word).EndsBefore rest ↔ ∀ c ∈ rest.head?, isWordPart c = false := by
  rcases ofWord_cases h with hmem | ⟨-, hof⟩
  · have hall : ∀ q ∈ keywords, q.2.EndsBefore rest ↔ ∀ c ∈ rest.head?, isWordPart c = false := by
      simp only [keywords, List.forall_mem_cons]
      exact ⟨Iff.rfl, Iff.rfl, Iff.rfl, Iff.rfl, Iff.rfl, Iff.rfl, by simp⟩
    exact hall _ hmem
  · rw [hof]
    rfl

end Token

/-! ## The first character -/

/-- Digits have a first one. -/
theorem IsDigits.exists_cons {ds : List Char} (h : IsDigits ds) :
    ∃ c cs, ds = c :: cs ∧ c.isDigit = true := by
  obtain ⟨c, cs, rfl⟩ := List.exists_cons_of_ne_nil h.1
  exact ⟨c, cs, rfl, h.2 c (by simp)⟩

/-- A numeral begins with its sign or a digit, and so with no blank. -/
theorem IsDigits.exists_cons_sign {ds : List Char} (h : IsDigits ds) (negative : Bool)
    (tail : List Char) :
    ∃ c cs, signOf negative ++ (ds ++ tail) = c :: cs ∧ Text.isBlank c = false := by
  obtain ⟨c, cs, rfl, hc⟩ := h.exists_cons
  cases negative with
  | true => exact ⟨'-', _, rfl, by decide⟩
  | false =>
    exact ⟨c, cs ++ tail, rfl, Token.isBlank_of_isWordPart (Token.isWordPart_of_isDigit hc)⟩

/-- A lexeme is not empty and begins with no blank. -/
theorem Lexeme.exists_cons {lexeme : List Char} {t : Token} (h : Lexeme lexeme t) :
    ∃ c cs, lexeme = c :: cs ∧ Text.isBlank c = false := by
  have hsymbol : ∀ {symbol t}, (symbol, t) ∈ Token.symbols →
      ∃ c cs, symbol = c :: cs ∧ Text.isBlank c = false := by
    intro symbol t hmem
    obtain ⟨c, cs, hcs, -, hblank⟩ := Token.startsText_of_mem_symbols hmem
    exact ⟨c, cs, hcs, hblank⟩
  have hword : ∀ {word}, Token.IsWord word → ∃ c cs, word.toList = c :: cs ∧
      Text.isBlank c = false := by
    rintro word ⟨c, cs, hcs, hc, -⟩
    exact ⟨c, cs, hcs, Token.isBlank_of_isWordPart (Token.isWordPart_of_isWordStart hc)⟩
  cases h with
  | punctuation hmem => exact hsymbol (Token.mem_symbols_of_punctuation hmem)
  | comparison op => exact hsymbol (Token.mem_symbols_of_comparison op)
  | quoted hquote =>
    refine ⟨_, _, rfl, ?_⟩
    rcases hquote with rfl | rfl <;> decide
  | @integer negative ds n hds =>
    rw [← List.append_nil ds]
    exact hds.exists_cons_sign negative []
  | decimal hds => exact hds.exists_cons_sign _ _
  | keyword hmem => exact hword (Token.isWord_of_mem_keywords hmem).1
  | name hname => exact hword hname.1

end TemplateExpr
