/-
# Parentheses around a source

A parenthesis belongs to no other lexeme, whatever stands in front of it or behind it, unless it
stands between quotes.  So a source between parentheses that has the tokens of a group is made of
the parentheses and a source that has the tokens inside; no quote of it has taken the closing
parenthesis, and none of its own parentheses closes the one in front.  The group is found within one
level more than what it holds.

Main statements:
* `tokenizes_parenthesized_iff`: the tokens of a text between parentheses;
* `Derives.group_iff`: which tokens are a group;
* `parseWithin_parenthesized_iff`: a source between parentheses is a group of what it is.
-/
import TemplateExpr.Proofs.Source.Joining
import TemplateExpr.Proofs.Source.Printing

namespace TemplateExpr

/-! ## The lexemes of parentheses -/

/-- No lexeme goes on with a closing parenthesis. -/
theorem Token.endsBefore_closeParen (t : Token) (rest : List Char) :
    t.EndsBefore (')' :: rest) := by
  apply endsBefore_of_head
  rintro c ⟨⟩
  exact ⟨by decide, by decide, by decide⟩

/-- A token of the punctuation has no other lexeme. -/
theorem Lexeme.eq_of_mem_punctuation {lexeme : List Char} {c : Char} {t : Token}
    (h : Lexeme lexeme t) (hmem : (c, t) ∈ Token.punctuation) : lexeme = [c] := by
  cases h with
  | punctuation hother =>
    have hall : ∀ q ∈ Token.punctuation, ∀ r ∈ Token.punctuation, q.2 = r.2 → [q.1] = [r.1] := by
      decide
    exact hall _ hother _ hmem rfl
  | keyword hword =>
    have hall : ∀ q ∈ Token.keywords, ∀ r ∈ Token.punctuation, q.2 ≠ r.2 := by decide
    exact absurd rfl (hall _ hword _ hmem)
  | _ => simp [Token.punctuation] at hmem

/-! ## Texts between parentheses -/

variable {p q : Position} {text : List Char} {ls : List (Located Token)} {ts us : List Token}

/-- The empty text has no tokens. -/
theorem Splits.eq_nil_of_nil (h : Splits p [] ls) : ls = [] := by
  generalize htext : [] = text at h
  cases h with
  | nil => rfl
  | cons _ hlexeme =>
    obtain ⟨c, cs, rfl, -⟩ := hlexeme.exists_cons
    simp at htext

/-- A text without tokens is blank. -/
theorem splits_nil_iff : Splits p text [] ↔ ∀ c ∈ text, Text.isBlank c = true := by
  constructor
  · intro h
    cases h with
    | nil hblanks => exact hblanks
  · exact .nil

/-- Behind an opening parenthesis the text is split by itself. -/
theorem Splits.of_cons_openParen (h : Splits p ('(' :: text) (⟨.openParen, q⟩ :: ls)) :
    Splits (p.next '(') text ls := by
  generalize hwhole : '(' :: text = whole at h
  cases h with
  | @cons _ blanks lexeme rest _ _ hblanks hlexeme _ hrest =>
    obtain rfl := hlexeme.eq_of_mem_punctuation (c := '(') (by decide)
    cases blanks with
    | nil =>
      obtain ⟨-, rfl⟩ := List.cons.inj hwhole
      exact hrest
    | cons b bs =>
      obtain ⟨rfl, -⟩ := List.cons.inj hwhole
      exact absurd (hblanks '(' List.mem_cons_self) (by decide)

/-- In front of a closing parenthesis that is the last token the text is split by itself. -/
theorem Splits.of_concat_closeParen (h : Splits p (text ++ [')']) (ls ++ [⟨.closeParen, q⟩])) :
    Splits p text ls := by
  generalize hwhole : text ++ [')'] = whole at h
  generalize htokens : ls ++ [⟨.closeParen, q⟩] = tokens at h
  induction h generalizing text ls with
  | nil => simp at htokens
  | @cons p blanks lexeme rest t tokens hblanks hlexeme hends hrest ih =>
    rcases List.eq_nil_or_concat' rest with rfl | ⟨front, c, rfl⟩
    · -- nothing is behind this lexeme, so it is the parenthesis
      obtain rfl := hrest.eq_nil_of_nil
      obtain ⟨rfl, hlast⟩ := List.append_singleton_inj.1 (show ls ++ _ = [] ++ _ from htokens)
      obtain rfl : Token.closeParen = t := congrArg Located.item hlast
      obtain rfl := hlexeme.eq_of_mem_punctuation (c := ')') (by decide)
      obtain rfl := List.append_cancel_right hwhole
      exact .nil hblanks
    · rw [← List.append_assoc, ← List.append_assoc] at hwhole
      obtain ⟨rfl, rfl⟩ := List.append_singleton_inj.1 hwhole
      rw [List.append_assoc]
      cases ls with
      | nil =>
        -- the parenthesis at the end would be a blank
        obtain ⟨-, rfl⟩ := List.cons.inj htokens
        exact absurd (splits_nil_iff.1 hrest ')' (by simp)) (by decide)
      | cons l ls =>
        obtain ⟨rfl, hmore⟩ := List.cons.inj htokens
        have hends' : t.EndsBefore (front ++ []) :=
          hends.of_agree (Token.endsBefore_of_blanked (by simp [Blanked]))
        rw [List.append_nil] at hends'
        exact .cons hblanks hlexeme hends' (ih rfl hmore)

/-- Between the tokens of two parentheses there are the tokens of the text between them. -/
theorem tokenizes_parenthesized_iff : Tokenizes ('(' :: (text ++ [')']))
    (.openParen :: (ts ++ [.closeParen])) ↔ Tokenizes text ts := by
  constructor
  · intro h
    obtain ⟨ls, hls, hitems⟩ := h .start
    obtain ⟨⟨item, position⟩, more, rfl, rfl, hmore⟩ := List.map_eq_cons_iff.1 hitems
    obtain ⟨ms, last, rfl, rfl, hlast⟩ := List.map_eq_append_iff.1 hmore
    obtain ⟨⟨item, position⟩, rfl, rfl⟩ := List.map_eq_singleton_iff.1 hlast
    exact fun p => hls.of_cons_openParen.of_concat_closeParen.exists_from p
  · intro h
    have hopen : Lexeme ['('] .openParen := .punctuation (by decide)
    have hclose : Lexeme [')'] .closeParen := .punctuation (by decide)
    have hback := h.append (tokenizes_of_lexeme hclose) fun t => t.endsBefore_closeParen []
    exact hback.cons_lexeme hopen trivial

/-! ## Groups -/

/-- The tokens of a group are parentheses around the tokens of what it holds. -/
theorem Derives.group_iff {T : Tier} {e : Expr} : Derives T us (.group e) ↔
    ∃ ts, us = .openParen :: (ts ++ [.closeParen]) ∧ Derives .disjunction ts e := by
  constructor
  · intro h
    generalize hgroup : Expr.group e = whole at h
    induction h with
    | @group ts inner h =>
      obtain rfl := Expr.group.inj hgroup
      exact ⟨ts, rfl, h⟩
    | ofPrimary _ ih | ofAccess _ ih | ofFiltered _ ih | ofOrdering _ ih | ofEquality _ ih
      | ofContainment _ ih | ofConjunction _ ih => exact ih hgroup
    | _ => cases hgroup
  · rintro ⟨ts, rfl, h⟩
    exact h.group.of_rank_le (Nat.zero_le T.rank)

/-- A source between parentheses is parsed to the group of a tree if and only if the source itself
is parsed to the tree within one level less. -/
theorem parseWithin_parenthesized_iff {limit : Nat} {source : String} {e : Expr} :
    parseWithin (limit + 1) ("(" ++ source ++ ")") = .ok (.group e) ↔
      parseWithin limit source = .ok e := by
  have htext : ("(" ++ source ++ ")").toList = '(' :: (source.toList ++ [')']) := by
    simp
  have hcost : (Expr.group e).cost < limit + 1 ↔ e.cost < limit := by
    rw [Expr.cost]
    omega
  rw [parseWithin_eq_ok_iff_tokenizes, parseWithin_eq_ok_iff_tokenizes, htext, hcost]
  constructor
  · rintro ⟨us, hus, hder, hlimit⟩
    obtain ⟨ts, rfl, hinner⟩ := Derives.group_iff.1 hder
    exact ⟨ts, tokenizes_parenthesized_iff.1 hus, hinner, hlimit⟩
  · rintro ⟨ts, hts, hder, hlimit⟩
    exact ⟨_, tokenizes_parenthesized_iff.2 hts, Derives.group_iff.2 ⟨ts, rfl, hder⟩, hlimit⟩

end TemplateExpr
