/-
# Blanks between lexemes

The blanks of a source are there for its readers.  Where no lexemes are separated, blanks can be put
in, and where lexemes are separated, they stay so with other blanks.  The tokens are the same ones,
each at the place to which its lexeme has moved, and so is what the source is parsed to.

No lexeme becomes a longer one: what decides where a lexeme ends is a character of the text behind
it, or two of them behind an integer, and those are the same ones or there is a blank.

Main statements:
* `Respaced.agree_or_blanked`: the texts agree up to where the second one ends or has a blank;
* `Respaced.splits`: both texts are split into the same lexemes;
* `parseWithin_of_respaced`: the tokens and the trees of two sources.
-/
import TemplateExpr.Proofs.Parsing.Relocation
import TemplateExpr.Proofs.Source.Splitting

namespace TemplateExpr

/-! ## Other blanks -/

/-- The second text has the lexemes of the first one and other blanks between them: where there are
blanks between two lexemes of the first text there are blanks in the second one, and everywhere else
there can be blanks or none.  What stands between quotes belongs to a lexeme. -/
inductive Respaced : List Char → List Char → Prop
  | nil {blanks blanks' : List Char} (hblanks : ∀ c ∈ blanks, Text.isBlank c = true)
      (hblanks' : ∀ c ∈ blanks', Text.isBlank c = true) : Respaced blanks blanks'
  | cons {blanks blanks' lexeme rest rest' : List Char} {t : Token}
      (hblanks : ∀ c ∈ blanks, Text.isBlank c = true)
      (hblanks' : ∀ c ∈ blanks', Text.isBlank c = true) (hlexeme : Lexeme lexeme t)
      (hends : t.EndsBefore rest) (hgap : Blanked rest → Blanked rest')
      (hrest : Respaced rest rest') :
      Respaced (blanks ++ (lexeme ++ rest)) (blanks' ++ (lexeme ++ rest'))

variable {p : Position} {text text' : List Char} {ts : List (Located Token)}

theorem blanked_of_forall {blanks : List Char} (h : ∀ c ∈ blanks, Text.isBlank c = true) :
    Blanked blanks :=
  fun c hc => h c (List.mem_of_mem_head? hc)

/-! ## Where lexemes end -/

/-- Where no blank has gone, the texts agree up to where the second one ends or has a blank. -/
theorem Respaced.agree_or_blanked (h : Respaced text text') (hgap : Blanked text → Blanked text') :
    ∃ front back back', text = front ++ back ∧ text' = front ++ back' ∧ Blanked back' := by
  induction h with
  | @nil blanks blanks' _ hblanks' =>
    exact ⟨[], blanks, blanks', rfl, rfl, blanked_of_forall hblanks'⟩
  | @cons blanks blanks' lexeme rest rest' t hblanks hblanks' _ _ hgap' _ ih =>
    by_cases hnow : Blanked (blanks' ++ (lexeme ++ rest'))
    · exact ⟨[], _, _, rfl, rfl, hnow⟩
    · -- there is no gap in the second text, so there has been none in the first one
      have hnil : ∀ bs text : List Char, (∀ c ∈ bs, Text.isBlank c = true) →
          ¬Blanked (bs ++ text) → bs = [] := by
        intro bs text hbs hnot
        cases bs with
        | nil => rfl
        | cons b bs => exact absurd (blanked_cons (hbs b List.mem_cons_self) _) hnot
      obtain rfl := hnil blanks' _ hblanks' hnow
      obtain rfl := hnil blanks _ hblanks (mt hgap hnow)
      obtain ⟨front, back, back', rfl, rfl, hback'⟩ := ih hgap'
      refine ⟨lexeme ++ front, back, back', ?_, ?_, hback'⟩ <;> rw [List.append_assoc] <;> rfl

theorem Respaced.endsBefore {t : Token} (h : Respaced text text')
    (hgap : Blanked text → Blanked text') (hends : t.EndsBefore text) : t.EndsBefore text' := by
  obtain ⟨front, back, back', rfl, rfl, hback'⟩ := h.agree_or_blanked hgap
  exact hends.of_agree (Token.endsBefore_of_blanked hback')

/-! ## Where lexemes begin -/

theorem Splits.offset_le (h : Splits p text ts) : ∀ t ∈ ts, p.offset ≤ t.position.offset := by
  induction h with
  | nil => simp
  | @cons p blanks lexeme rest t ts _ _ _ _ ih =>
    have hstart := p.offset_after blanks
    have hend := (p.after blanks).offset_after lexeme
    intro u hu
    rcases List.mem_cons.1 hu with rfl | hu
    · show p.offset ≤ (p.after blanks).offset
      omega
    · have hbehind := ih u hu
      omega

/-- Both texts are split into the same lexemes, and every place of the first one is moved to one
place of the second one. -/
theorem Respaced.splits (h : Respaced text text') (p p' : Position) :
    ∃ (f : Position → Position) (ts : List (Located Token)), Splits p text ts ∧
      Splits p' text' (ts.map (Located.relocate f)) ∧ f (p.after text) = p'.after text' := by
  induction h generalizing p p' with
  | @nil blanks blanks' hblanks hblanks' =>
    exact ⟨fun _ => p'.after blanks', [], .nil hblanks, .nil hblanks', rfl⟩
  | @cons blanks blanks' lexeme rest rest' t hblanks hblanks' hlexeme hends hgap hrest ih =>
    obtain ⟨f, ts, hts, hts', hf⟩ :=
      ih ((p.after blanks).after lexeme) ((p'.after blanks').after lexeme)
    -- the lexemes behind this one begin further on
    have hfar : ∀ q : Position, ((p.after blanks).after lexeme).offset ≤ q.offset →
        Function.update f (p.after blanks) (p'.after blanks') q = f q := by
      intro q hq
      obtain ⟨c, cs, rfl, -⟩ := hlexeme.exists_cons
      rw [Position.offset_after, List.length_cons] at hq
      refine Function.update_of_ne ?_ _ _
      rintro rfl
      omega
    have hmap : ts.map (Located.relocate (Function.update f (p.after blanks) (p'.after blanks'))) =
        ts.map (Located.relocate f) :=
      List.map_congr_left fun u hu =>
        congrArg (Located.mk u.item) (hfar u.position (hts.offset_le u hu))
    refine ⟨Function.update f (p.after blanks) (p'.after blanks'), ⟨t, p.after blanks⟩ :: ts,
      .cons hblanks hlexeme hends hts, ?_, ?_⟩
    · rw [List.map_cons, hmap]
      have hhere : Located.relocate (Function.update f (p.after blanks) (p'.after blanks'))
          ⟨t, p.after blanks⟩ = ⟨t, p'.after blanks'⟩ :=
        congrArg (Located.mk t) (Function.update_self ..)
      rw [hhere]
      exact .cons hblanks' hlexeme (hrest.endsBefore hgap hends) hts'
    · rw [Position.after_append, Position.after_append, Position.after_append,
        Position.after_append, hfar, hf]
      rw [Position.offset_after _ rest]
      omega

/-! ## Sources -/

/-- A source with other blanks has the same tokens, and it is parsed to the same tree or to the same
error; every place is the one that takes the place of the other one. -/
theorem parseWithin_of_respaced {source source' : String}
    (h : Respaced source.toList source'.toList) :
    ∃ (f : Position → Position) (ts : List (Located Token)), tokensOf source = .ok ts ∧
      tokensOf source' = .ok (ts.map (Located.relocate f)) ∧
      ∀ limit, parseWithin limit source' =
        (parseWithin limit source).mapError (SyntaxError.relocate f) := by
  obtain ⟨f, ts, hts, hts', hf⟩ := h.splits .start .start
  have hstream : streamOf source' = (streamOf source).relocate f := by
    rw [streamOf, streamOf, streamFrom_of_splits hts, streamFrom_of_splits hts', ← hf]
    simp [TokenStream.relocate, relocateAnswer, Located.relocate]
  exact ⟨f, ts, tokensOf_eq_ok_iff.2 (untilError_of_splits hts),
    tokensOf_eq_ok_iff.2 (untilError_of_splits hts'), parseWithin_of_relocate hstream⟩

theorem parseWithin_of_respaced_path :
    Respaced "1.a <'  '".toList "\n1 . a\t< '  ' ".toList ∧
      ∃ (f : Position → Position) (ts : List (Located Token)), tokensOf "1.a <'  '" = .ok ts ∧
        tokensOf "\n1 . a\t< '  ' " = .ok (ts.map (Located.relocate f)) ∧
        ∀ limit, parseWithin limit "\n1 . a\t< '  ' " =
          (parseWithin limit "1.a <'  '").mapError (SyntaxError.relocate f) := by
  have hspace : Text.isBlank ' ' = true := by cbv
  have htab : Text.isBlank '\t' = true := by cbv
  have hfeed : Text.isBlank '\n' = true := by cbv
  have hname : Token.IsName "a" := by
    refine ⟨⟨'a', [], rfl, by decide, by simp⟩, ?_⟩
    simp [Token.keywords]
  have hquoted : Respaced "'  '".toList " '  ' ".toList :=
    @Respaced.cons [] [' '] "'  '".toList [] [' '] (.string "  ") (by simp) (by simpa)
      (@Lexeme.quoted '\x27' [' ', ' '] (.inr rfl) (by decide)) trivial (by simp [Blanked, hspace])
      (.nil (by simp) (by simpa))
  have hless : Respaced " <'  '".toList "\t< '  ' ".toList :=
    @Respaced.cons [' '] ['\t'] ['<'] "'  '".toList " '  ' ".toList (.compare .less) (by simpa)
      (by simpa) (.comparison .less) (show "'  '".toList.head? ≠ some '=' by simp)
      (by simp [Blanked, hspace]) hquoted
  have ha : Respaced "a <'  '".toList " a\t< '  ' ".toList :=
    @Respaced.cons [] [' '] ['a'] " <'  '".toList "\t< '  ' ".toList (.identifier "a") (by simp)
      (by simpa) (.name hname) (Token.endsBefore_of_blanked (by simp [Blanked, hspace]) _)
      (by simp [Blanked, htab]) hless
  have hpoint : Respaced ".a <'  '".toList " . a\t< '  ' ".toList :=
    @Respaced.cons [] [' '] ['.'] "a <'  '".toList " a\t< '  ' ".toList .dot (by simp)
      (by simpa) (.punctuation (by decide)) trivial (by simp [Blanked, hspace]) ha
  have hone : Respaced "1.a <'  '".toList "\n1 . a\t< '  ' ".toList :=
    @Respaced.cons [] ['\n'] ['1'] ".a <'  '".toList " . a\t< '  ' ".toList (.integer 1) (by simp)
      (by simpa) (@Lexeme.integer false ['1'] 1 ⟨by simp, by simp⟩ (by decide))
      ⟨by simp, by simp⟩ (by simp [Blanked, hspace]) hpoint
  exact ⟨hone, parseWithin_of_respaced hone⟩

end TemplateExpr
