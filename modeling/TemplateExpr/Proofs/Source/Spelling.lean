/-
# Spelling tokens

Some characters are read as one token wherever the text ends behind them or goes on with a blank:
the lexemes.  A text of such spellings with blanks behind them has the tokens that are spelled.

Main statements:
* `spells_iff`: what spells a token are its lexemes;
* `tokensOf_spaced`: the tokens of a text of spellings.
-/
import TemplateExpr.Proofs.Source.Splitting

namespace TemplateExpr

/-! ## Spellings -/

/-- The characters are read as the token if they are followed by a blank or the end of the text. -/
structure Spells (cs : List Char) (t : Token) : Prop where
  /-- The first character is none to skip. -/
  head : ∃ c ds, cs = c :: ds ∧ Text.isBlank c = false
  /-- All characters are taken, and no more. -/
  read : ∀ {rest}, Blanked rest → Token.read (cs ++ rest) = ⟨.ok t, cs, rest⟩

/-- What spells a token are its lexemes. -/
theorem spells_iff {cs : List Char} {t : Token} : Spells cs t ↔ Lexeme cs t := by
  constructor
  · intro h
    have hread : Token.read (cs ++ []) = ⟨.ok t, cs, []⟩ := h.read blanked_nil
    obtain ⟨c, ds, hcs, -⟩ := h.head
    have hok : (Token.read (cs ++ [])).outcome = .ok t := by rw [hread]
    rcases Token.read_eq_ok hok with ⟨-, hnil, -⟩ | ⟨hne, -⟩
    · simp [hcs] at hnil
    · have hlexeme := (lexeme_of_read hok hne).1
      rwa [hread] at hlexeme
  · intro h
    exact ⟨h.exists_cons, fun hrest => read_of_lexeme h (Token.endsBefore_of_blanked hrest t)⟩

theorem spells_symbol {symbol : List Char} {t : Token} (h : (symbol, t) ∈ Token.symbols) :
    Spells symbol t :=
  spells_iff.2 (Token.lexeme_of_mem_symbols h)

theorem spells_word {c : Char} {cs : List Char} (h : Token.isWordStart c = true)
    (hcs : ∀ d ∈ cs, Token.isWordPart d = true) :
    Spells (c :: cs) (Token.ofWord (String.ofList (c :: cs))) := by
  have hword : Token.IsWord (String.ofList (c :: cs)) := ⟨c, cs, String.toList_ofList, h, hcs⟩
  have hlexeme := Token.lexeme_of_isWord hword
  rw [String.toList_ofList] at hlexeme
  exact spells_iff.2 hlexeme

theorem spells_keyword {word : String} {t : Token} (h : (word, t) ∈ Token.keywords) :
    Spells word.toList t :=
  spells_iff.2 (.keyword h)

/-! ## Texts of spellings -/

/-- Spellings with a blank behind each. -/
def spaced (ws : List (List Char × Token)) : List Char := ws.flatMap fun w => w.1 ++ [' ']

theorem splits_spaced {ws : List (List Char × Token)} (h : ∀ w ∈ ws, Spells w.1 w.2)
    (p : Position) : ∃ ts, Splits p (spaced ws) ts ∧ ts.map Located.item = ws.map Prod.snd := by
  induction ws generalizing p with
  | nil => exact ⟨[], .nil (by simp [spaced]), rfl⟩
  | cons w ws ih =>
    obtain ⟨ts, hsplits, hitems⟩ := ih (fun v hv => h v (by simp [hv])) ((p.after w.1).next ' ')
    refine ⟨⟨w.2, p⟩ :: ts, ?_, by rw [List.map_cons, hitems, List.map_cons]⟩
    have hcons := hsplits.cons_blank (spells_iff.1 (h w (by simp))) (by decide)
    simpa [spaced] using hcons

/-- The tokens of a text of spellings are those that are spelled. -/
theorem tokensOf_spaced {ws : List (List Char × Token)} (h : ∀ w ∈ ws, Spells w.1 w.2) :
    ∃ ts, tokensOf (String.ofList (spaced ws)) = .ok ts ∧
      ts.map Located.item = ws.map Prod.snd := by
  obtain ⟨ts, hsplits, hitems⟩ := splits_spaced h .start
  refine ⟨ts, ?_, hitems⟩
  rw [tokensOf_eq_ok_iff, streamOf, String.toList_ofList, untilError_of_splits hsplits]

end TemplateExpr
