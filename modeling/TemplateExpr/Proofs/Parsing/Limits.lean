/-
# Greater limits

A greater limit takes back no answer but the one that an expression is nested too deeply: the tree
that is found under one limit is found under every greater one, and so is any other error, at the
same place.

Main statements:
* `expression_eq_or_tooDeep`: one expression under two budgets;
* `parseWithin_eq_or_tooDeep`: a source under two limits.
-/
import TemplateExpr.Proofs.Parsing.Locality
import TemplateExpr.Proofs.Parsing.Source

namespace TemplateExpr

/-! ## Expressions -/

/-- With a greater budget a parser does the same, down to the cursor and the levels that it stays
in, unless it was too deep. -/
theorem Parse.expression_eq_or_tooDeep {b b' : Nat} (hb : b ≤ b') {c : Cursor}
    (hc : c.ahead.Proper) :
    (∃ n c', expression b c = .error ⟨.tooDeep, n⟩ c') ∨ expression b' c = expression b c := by
  have hfollows := follows_expression hb hc
  cases hrun : expression b c with
  | ok e c' =>
    obtain ⟨ts, hts, hgreater⟩ := hfollows.ok hrun
    exact .inr (hgreater hc hts rfl)
  | error f c' =>
    obtain ⟨s, n⟩ := f
    by_cases hs : s = .tooDeep
    · subst hs
      exact .inl ⟨n, c', rfl⟩
    · obtain ⟨ts, hts, hgreater⟩ := hfollows.error hrun hs
      exact .inr (hgreater hc hts rfl)

/-! ## Sources -/

namespace SyntaxError

/-- The limit is spoken of in no error but the one of nesting too deeply. -/
theorem ofStop_cases (limit limit' : Nat) (found : Located Token) (s : Stop) :
    s = .tooDeep ∨ ofStop limit' found s = ofStop limit found s ∧
      ∀ n p, ofStop limit found s ≠ .tooDeep n p := by
  cases s with
  | tooDeep => exact .inl rfl
  | lexical e => exact .inr ⟨rfl, by simp [ofStop]⟩
  | missing wanted => exact .inr ⟨rfl, missing_ne_tooDeep wanted found⟩

end SyntaxError

/-- Under two limits a source has the same tree or the same error at the same place, which is not
that of nesting too deeply, unless the lower limit is exceeded. -/
theorem parseWithin_eq_or_tooDeep {limit limit' : Nat} (h : limit ≤ limit') (source : String) :
    (∃ p, parseWithin limit source = .error (.tooDeep limit p)) ∨
      parseWithin limit source = parseWithin limit' source ∧
        ∀ n p, parseWithin limit source ≠ .error (.tooDeep n p) := by
  cases hhead : (streamOf source).head with
  | error e =>
    have herror : ∀ n, parseWithin n source = .error (.lexical e) :=
      fun _ => parseWithin_of_head_eq_error hhead
    exact .inr ⟨by rw [herror, herror], by simp [herror]⟩
  | ok t =>
    rcases Parse.expression_eq_or_tooDeep h (c := ⟨t, (streamOf source).tail⟩)
      (proper_streamOf source).tail with ⟨n, c, hrun⟩ | heq
    · exact .inl ⟨c.current.position, parseWithin_of_error hhead hrun⟩
    · cases hrun : Parse.expression limit ⟨t, (streamOf source).tail⟩ with
      | ok e c =>
        rw [parseWithin_of_ok hhead hrun, parseWithin_of_ok hhead (heq.trans hrun)]
        refine .inr ⟨rfl, fun n p => ?_⟩
        split
        · simp
        · rw [ne_eq, Except.error.injEq]
          exact SyntaxError.missing_ne_tooDeep _ _ n p
      | error f c =>
        rw [parseWithin_of_error hhead hrun, parseWithin_of_error hhead (heq.trans hrun)]
        rcases SyntaxError.ofStop_cases limit limit' c.current f.stop with hstop | ⟨hsame, hne⟩
        · exact .inl ⟨c.current.position, by rw [hstop]; rfl⟩
        · rw [hsame]
          exact .inr ⟨rfl, fun n p => by rw [ne_eq, Except.error.injEq]; exact hne n p⟩

/-- That a group is not closed is seen within two levels, and so within nine. -/
theorem parseWithin_eq_or_tooDeep_group : 2 ≤ 9 ∧
    parseWithin 9 "(b c" = .error (.wrongToken .closingParen (.identifier "c") ⟨3, 1, 4⟩) := by
  have hstream : streamOf "(b c" = ⟨[.ok ⟨.openParen, ⟨0, 1, 1⟩⟩, .ok ⟨.identifier "b", ⟨1, 1, 2⟩⟩,
      .ok ⟨.identifier "c", ⟨3, 1, 4⟩⟩], .ok ⟨.endOfSource, ⟨4, 1, 5⟩⟩⟩ := by cbv
  have htwo : parseWithin 2 "(b c" =
      .error (.wrongToken .closingParen (.identifier "c") ⟨3, 1, 4⟩) := by
    rw [parseWithin_of_head (congrArg TokenStream.head hstream), hstream]
    rfl
  have hle : 2 ≤ 9 := by decide
  refine ⟨hle, ?_⟩
  rcases parseWithin_eq_or_tooDeep hle "(b c" with ⟨p, hp⟩ | ⟨heq, -⟩
  · rw [htwo] at hp
    exact SyntaxError.noConfusion (Except.error.inj hp)
  · exact heq.symm.trans htwo

end TemplateExpr
