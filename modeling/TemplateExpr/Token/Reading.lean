/-
# Reading one token

Where a text begins with a character that is not blank, a token is read there: a symbol, a quoted
string, a number or a word.  What cannot be read is a fault of the text.  A reading says which
characters were taken; together with the rest they are the text that was read.

Main statements:
* `readAs_read`: the beginning of a text tells how it is read;
* `read_append`: no character is lost or added;
* `length_rest_read`: what was taken is missing from the rest.
-/
import TemplateExpr.Binary64.Rounding
import TemplateExpr.Decimal
import TemplateExpr.Text.Alphabetic
import TemplateExpr.Text.Blank
import TemplateExpr.Text.Numeric
import TemplateExpr.Token.Basic

namespace TemplateExpr

/-! ## Faults -/

/-- Why no token can be read. -/
inductive LexicalFault where
  /-- A quote without its partner. -/
  | openString
  /-- A character that begins no token. -/
  | strayCharacter (c : Char)
  /-- An integer of more than 64 bits. -/
  | numberTooLarge (text : String)
deriving DecidableEq, Inhabited

/-- The message for a fault. -/
def LexicalFault.message : LexicalFault → String
  | .openString => "unterminated string literal"
  | .strayCharacter c => "unexpected character " ++ Text.quotedChar c
  | .numberTooLarge text => "invalid number " ++ Token.ticked text

/-- What reading a token from a text comes to. -/
structure Reading where
  /-- The token or the reason why there is none. -/
  outcome : Except LexicalFault Token
  /-- The characters that were taken. -/
  taken : List Char
  /-- The characters that were left. -/
  rest : List Char

namespace Token

/-! ## Symbols -/

/-- Reads the first symbol of the table that the text begins with. -/
def readSymbol? (cs : List Char) : Option Reading :=
  symbols.findSome? fun (symbol, token) =>
    if symbol.isPrefixOf cs then some ⟨.ok token, symbol, cs.drop symbol.length⟩ else none

/-! ## Strings -/

/-- The quotes. -/
def isQuote (c : Char) : Bool := c == '\x22' || c == '\x27'

/-- Reads a string whose opening quote has been taken: all up to the next quote of its kind. -/
def readString (quote : Char) (cs : List Char) : Reading :=
  let inside := cs.takeWhile (· != quote)
  match cs.dropWhile (· != quote) with
  | [] => ⟨.error .openString, quote :: inside, []⟩
  | close :: rest => ⟨.ok (.string (String.ofList inside)), quote :: (inside ++ [close]), rest⟩

/-! ## Numbers -/

/-- The text begins with a digit, or with a minus sign and a digit. -/
def startsNumber : List Char → Bool
  | '-' :: c :: _ => c.isDigit
  | c :: _ => c.isDigit
  | [] => false

/-- A minus sign at the beginning, and the rest. -/
def splitSign : List Char → List Char × List Char
  | '-' :: cs => (['-'], cs)
  | cs => ([], cs)

/-- A point with at least one digit behind it at the beginning, and the rest. -/
def splitFraction : List Char → List Char × List Char
  | '.' :: c :: cs =>
    if c.isDigit then ('.' :: (c :: cs).takeWhile Char.isDigit, (c :: cs).dropWhile Char.isDigit)
    else ([], '.' :: c :: cs)
  | cs => ([], cs)

/-- The number with the given sign, digits before the point, and point with the digits behind it;
without a point it must be an integer of 64 bits. -/
def ofNumeral? (sign whole fraction : List Char) : Option Token :=
  match fraction with
  | [] =>
    let magnitude : Int := Nat.ofDigitChars 10 whole 0
    let n := if sign.isEmpty then magnitude else -magnitude
    if Int64.minValue.toInt ≤ n ∧ n ≤ Int64.maxValue.toInt then some (.integer (Int64.ofInt n))
    else none
  | _ :: places =>
    let digits := Nat.ofDigitChars 10 (whole ++ places) 0
    some (.float (Binary64.ofRatio (!sign.isEmpty) digits (tenPow places.length)))

/-- Reads a number. -/
def readNumber (cs : List Char) : Reading :=
  let (sign, unsigned) := splitSign cs
  let whole := unsigned.takeWhile Char.isDigit
  let (fraction, rest) := splitFraction (unsigned.dropWhile Char.isDigit)
  let taken := sign ++ whole ++ fraction
  match ofNumeral? sign whole fraction with
  | some token => ⟨.ok token, taken, rest⟩
  | none => ⟨.error (.numberTooLarge (String.ofList taken)), taken, rest⟩

/-! ## Words -/

/-- A character that begins a word. -/
def isWordStart (c : Char) : Bool := Text.isAlphabetic c || c == '_'

/-- A character that continues a word. -/
def isWordPart (c : Char) : Bool := Text.isAlphabetic c || Text.isNumeric c || c == '_'

/-- Reads a word. -/
def readWord (cs : List Char) : Reading :=
  let word := cs.takeWhile isWordPart
  ⟨.ok (ofWord (String.ofList word)), word, cs.dropWhile isWordPart⟩

/-! ## All tokens -/

/-- Reads the token that a text without leading blanks begins with. -/
def read (cs : List Char) : Reading :=
  match readSymbol? cs with
  | some reading => reading
  | none =>
    match cs with
    | [] => ⟨.ok .endOfSource, [], []⟩
    | c :: rest =>
      if isQuote c then readString c rest
      else if startsNumber (c :: rest) then readNumber (c :: rest)
      else if isWordStart c then readWord (c :: rest)
      else ⟨.error (.strayCharacter c), [], c :: rest⟩

/-- How a text is read, by what it begins with. -/
inductive ReadAs : List Char → Reading → Prop
  | symbol {cs : List Char} {r : Reading} (h : readSymbol? cs = some r) : ReadAs cs r
  | ending : ReadAs [] ⟨.ok .endOfSource, [], []⟩
  | string {quote : Char} (h : isQuote quote = true) (cs : List Char) :
      ReadAs (quote :: cs) (readString quote cs)
  | number {cs : List Char} (h : startsNumber cs = true) : ReadAs cs (readNumber cs)
  | word {c : Char} (h : isWordStart c = true) (cs : List Char) :
      ReadAs (c :: cs) (readWord (c :: cs))
  | stray (c : Char) (cs : List Char) : ReadAs (c :: cs) ⟨.error (.strayCharacter c), [], c :: cs⟩

/-- Every reading is of one of the kinds. -/
theorem readAs_read (cs : List Char) : ReadAs cs (read cs) := by
  unfold read
  split
  · exact .symbol ‹_›
  · split
    · exact .ending
    · split
      · exact .string ‹_› _
      · split
        · exact .number ‹_›
        · split
          · exact .word ‹_› _
          · exact .stray _ _

/-! ## Nothing is lost -/

/-- A symbol that is read is one of the table. -/
theorem readSymbol?_eq_some {cs : List Char} {r : Reading} (h : readSymbol? cs = some r) :
    ∃ symbol t rest, (symbol, t) ∈ symbols ∧ cs = symbol ++ rest ∧ r = ⟨.ok t, symbol, rest⟩ := by
  obtain ⟨⟨symbol, t⟩, hmem, hfound⟩ := List.exists_of_findSome?_eq_some h
  simp only [Option.ite_none_right_eq_some, Option.some.injEq] at hfound
  obtain ⟨hbegins, rfl⟩ := hfound
  have happend := List.prefix_iff_eq_append.1 (List.isPrefixOf_iff_prefix.1 hbegins)
  exact ⟨symbol, t, _, hmem, happend.symm, rfl⟩

/-- What a symbol takes and what it leaves is the text. -/
theorem readSymbol?_append {cs : List Char} {r : Reading} (h : readSymbol? cs = some r) :
    r.taken ++ r.rest = cs := by
  obtain ⟨symbol, t, rest, -, rfl, rfl⟩ := readSymbol?_eq_some h
  rfl

/-- What a string takes and what it leaves is the text. -/
theorem readString_append (quote : Char) (cs : List Char) :
    (readString quote cs).taken ++ (readString quote cs).rest = quote :: cs := by
  have h := List.takeWhile_append_dropWhile (p := (· != quote)) (l := cs)
  unfold readString
  dsimp only
  split
  · rename_i hd
    rw [hd] at h
    simpa using h
  · rename_i close rest hd
    rw [hd] at h
    simpa using h

/-- The sign and what is behind it is the text. -/
theorem splitSign_append (cs : List Char) : (splitSign cs).1 ++ (splitSign cs).2 = cs := by
  unfold splitSign
  split <;> rfl

/-- The places and what is behind them is the text. -/
theorem splitFraction_append (cs : List Char) :
    (splitFraction cs).1 ++ (splitFraction cs).2 = cs := by
  unfold splitFraction
  split
  · split
    · rw [List.cons_append, List.takeWhile_append_dropWhile]
    · rfl
  · rfl

/-- What a number takes and what it leaves is the text. -/
theorem readNumber_append (cs : List Char) :
    (readNumber cs).taken ++ (readNumber cs).rest = cs := by
  have h : (splitSign cs).1 ++ (splitSign cs).2.takeWhile Char.isDigit ++
      (splitFraction ((splitSign cs).2.dropWhile Char.isDigit)).1 ++
      (splitFraction ((splitSign cs).2.dropWhile Char.isDigit)).2 = cs := by
    rw [List.append_assoc, splitFraction_append, List.append_assoc,
      List.takeWhile_append_dropWhile, splitSign_append]
  unfold readNumber
  dsimp only
  split <;> exact h

/-- What a word takes and what it leaves is the text. -/
theorem readWord_append (cs : List Char) : (readWord cs).taken ++ (readWord cs).rest = cs :=
  List.takeWhile_append_dropWhile

/-- The characters taken and the characters left are the text. -/
theorem read_append (cs : List Char) : (read cs).taken ++ (read cs).rest = cs := by
  have hread := readAs_read cs
  generalize read cs = r at hread ⊢
  cases hread with
  | symbol h => exact readSymbol?_append h
  | ending => rfl
  | string => exact readString_append _ _
  | number => exact readNumber_append _
  | word => exact readWord_append _
  | stray => rfl

/-- What is left is as much shorter as characters are taken. -/
theorem length_rest_read (cs : List Char) :
    (read cs).rest.length = cs.length - (read cs).taken.length := by
  have h := congrArg List.length (read_append cs)
  rw [List.length_append] at h
  omega

end Token

end TemplateExpr
