/-
# Sources behind each other

Where the tokens of a source can be read to its end and at least one blank follows, the text behind
the blank is read as if it stood alone, up to its end or to the same error.  Only its places have
moved: by the characters and the lines in front of it, and on its first line by the columns that are
already taken there.

Main statements:
* `behind_after`: where a place has moved to;
* `streamFrom_relocate`: a text that begins elsewhere has the same answers, at the places moved to;
* `streamOf_append`: all answers of a source behind another one;
* `tokensOf_append`: its tokens and its error.
-/
import TemplateExpr.Proofs.Source.Positions
import TemplateExpr.Proofs.Source.Respacing

namespace TemplateExpr

/-! ## Places in a text behind another one -/

namespace Position

/-- The place in a text, when the text stands behind the given characters.  Behind its first line
the columns are the same. -/
def behind (front : List Char) (p : Position) : Position where
  offset := p.offset + front.length
  line := p.line + front.count '\n'
  column := if p.line = 1 then p.column + ((start.after front).column - 1) else p.column

theorem behind_start (front : List Char) : start.behind front = start.after front := by
  have hoffset := offset_after start front
  have hline := line_after front
  have hcolumn := column_after front
  cases hplace : start.after front with
  | mk offset line column =>
    simp only [hplace] at hoffset hline hcolumn
    simp only [behind, hplace, mk.injEq]
    refine ⟨hoffset.symm, hline.symm, ?_⟩
    show 1 + (column - 1) = column
    omega

/-- Lines are counted from one, so a line feed always ends the first line. -/
theorem behind_next (front : List Char) {p : Position} (h : 1 ≤ p.line) (c : Char) :
    (p.next c).behind front = (p.behind front).next c := by
  unfold next behind
  by_cases hc : c = '\n'
  · simp [hc, Nat.add_right_comm, Nat.ne_of_gt h]
  · by_cases hline : p.line = 1
    · simp [hc, hline, Nat.add_right_comm]
    · simp [hc, hline, Nat.add_right_comm]

/-- A place moves to where the two texts together lead. -/
theorem behind_after (front cs : List Char) :
    (start.after cs).behind front = start.after (front ++ cs) := by
  induction cs using List.reverseRecOn with
  | nil =>
    rw [List.append_nil]
    exact behind_start front
  | append_singleton cs c ih =>
    have hline : 1 ≤ (start.after cs).line := by
      rw [line_after]
      omega
    calc (start.after (cs ++ [c])).behind front
        = ((start.after cs).next c).behind front := by rw [after_append]; rfl
      _ = ((start.after cs).behind front).next c := behind_next front hline c
      _ = start.after (front ++ (cs ++ [c])) := by
          rw [ih, ← List.append_assoc, after_append _ _ [c]]
          rfl

end Position

/-! ## Answers at other places -/

variable {f : Position → Position} {p : Position}

theorem answerAt_relocate (r : Reading) (p : Position) :
    r.answerAt (f p) = relocateAnswer f (r.answerAt p) := by
  unfold Reading.answerAt
  split <;> rfl

/-- A text that begins elsewhere has the same answers, if all its places move along. -/
theorem streamFrom_relocate (hf : ∀ cs, f (p.after cs) = (f p).after cs) (text : List Char) :
    streamFrom (f p) text = (streamFrom p text).relocate f := by
  fun_induction streamFrom p text with
  | case1 p text start reading htaken =>
    rw [streamFrom_of_taken_eq_nil _ htaken, ← hf, answerAt_relocate]
    rfl
  | case2 p text start reading htaken ih =>
    have hstart : f start = (f p).after (text.takeWhile Text.isBlank) := hf _
    have hplaces : ∀ cs, f ((start.after reading.taken).after cs) =
        ((f start).after reading.taken).after cs := by
      intro cs
      show f (((p.after _).after _).after cs) = _
      rw [← Position.after_append, ← Position.after_append, hf, hstart, Position.after_append,
        Position.after_append]
    have hbehind : f (start.after reading.taken) = (f start).after reading.taken := hplaces []
    have hrest : ∀ cs, f ((start.after reading.taken).after cs) =
        (f (start.after reading.taken)).after cs := by
      rw [hbehind]
      exact hplaces
    rw [streamFrom_of_taken_ne_nil _ htaken, ← hstart, ← hbehind, ih hrest, answerAt_relocate]
    rfl

theorem untilError_relocate (s : TokenStream) : (s.relocate f).untilError =
    (s.untilError.1.map (Located.relocate f), s.untilError.2.map (LexicalError.relocate f)) := by
  obtain ⟨ahead, final⟩ := s
  induction ahead with
  | nil => cases final <;> rfl
  | cons answer ahead ih =>
    cases answer with
    | error e => rfl
    | ok t =>
      show (((⟨ahead, final⟩ : TokenStream).relocate f).prepend (.ok (t.relocate f))).untilError = _
      rw [untilError_prepend_ok, ih]
      rfl

/-! ## Sources -/

variable {source gap : String} {ts : List (Located Token)}

/-- Behind a source of which all tokens can be read and a blank, all answers are those of the other
source. -/
theorem streamOf_append (h : tokensOf source = .ok ts) (hgap : gap ≠ "")
    (hblanks : ∀ c ∈ gap.toList, Text.isBlank c = true) (back : String) :
    streamOf (source ++ gap ++ back) =
      ((streamOf back).relocate (.behind (source ++ gap).toList)).prependAll ts := by
  have hsplits := (tokensOf_eq_ok_iff_splits source ts).1 h
  have hblanked : Blanked (gap.toList ++ back.toList) := by
    obtain ⟨c, cs, hcs⟩ := List.exists_cons_of_ne_nil (mt String.toList_eq_nil_iff.1 hgap)
    rw [hcs] at hblanks ⊢
    exact blanked_cons (hblanks c List.mem_cons_self) _
  have hplaces : ∀ cs, (Position.start.after cs).behind (source ++ gap).toList =
      (Position.start.behind (source ++ gap).toList).after cs := by
    intro cs
    rw [Position.behind_after, Position.behind_start, Position.after_append]
  calc streamOf (source ++ gap ++ back)
      = streamFrom .start (source.toList ++ (gap.toList ++ back.toList)) := by
        rw [streamOf, String.toList_append, String.toList_append, List.append_assoc]
    _ = (streamFrom (Position.start.behind (source ++ gap).toList) back.toList).prependAll ts := by
        rw [hsplits.streamFrom_append (Token.endsBefore_of_blanked hblanked),
          streamFrom_append_blanks hblanks, Position.behind_start, String.toList_append,
          Position.after_append]
    _ = _ := congrArg (TokenStream.prependAll · ts) (streamFrom_relocate hplaces back.toList)

/-- Its tokens up to its end or its first error. -/
theorem untilError_streamOf_append (h : tokensOf source = .ok ts) (hgap : gap ≠ "")
    (hblanks : ∀ c ∈ gap.toList, Text.isBlank c = true) (back : String) :
    (streamOf (source ++ gap ++ back)).untilError =
      (ts ++ (streamOf back).untilError.1.map (Located.relocate (.behind (source ++ gap).toList)),
        (streamOf back).untilError.2.map
          (LexicalError.relocate (.behind (source ++ gap).toList))) := by
  rw [streamOf_append h hgap hblanks, untilError_prependAll, untilError_relocate]

/-- Behind a source of which all tokens can be read and at least one blank, another source has the
same tokens up to its end or to the same error; everything in it has moved behind the text in
front. -/
theorem tokensOf_append (h : tokensOf source = .ok ts) (hgap : gap ≠ "")
    (hblanks : ∀ c ∈ gap.toList, Text.isBlank c = true) (back : String) :
    (streamOf (source ++ gap ++ back)).untilError =
      (ts ++ (streamOf back).untilError.1.map (Located.relocate (.behind (source ++ gap).toList)),
        (streamOf back).untilError.2.map
          (LexicalError.relocate (.behind (source ++ gap).toList))) ∧
    tokensOf (source ++ gap ++ back) =
      ((tokensOf back).map fun us =>
        ts ++ us.map (Located.relocate (.behind (source ++ gap).toList))).mapError
          (LexicalError.relocate (.behind (source ++ gap).toList)) := by
  have hsplit := untilError_streamOf_append h hgap hblanks back
  refine ⟨hsplit, ?_⟩
  rw [tokensOf, tokensOf, hsplit]
  obtain ⟨us, error⟩ := (streamOf back).untilError
  cases error <;> rfl

/-- Two tokens in front of a gap with a line feed, and behind it a token on the first line and an
open string on the second one. -/
theorem tokensOf_append_openString :
    tokensOf "x <" = .ok [⟨.identifier "x", ⟨0, 1, 1⟩⟩, ⟨.compare .less, ⟨2, 1, 3⟩⟩] ∧
      (streamOf "x <\n y\n 'z").untilError =
        ([⟨.identifier "x", ⟨0, 1, 1⟩⟩, ⟨.compare .less, ⟨2, 1, 3⟩⟩, ⟨.identifier "y", ⟨5, 2, 2⟩⟩],
          some ⟨.openString, ⟨8, 3, 2⟩⟩) ∧
      tokensOf "x <\n y\n 'z" = .error ⟨.openString, ⟨8, 3, 2⟩⟩ := by
  have hfront : tokensOf "x <" =
      .ok [⟨.identifier "x", ⟨0, 1, 1⟩⟩, ⟨.compare .less, ⟨2, 1, 3⟩⟩] := by cbv
  have hback : (streamOf "y\n 'z").untilError =
      ([⟨.identifier "y", ⟨0, 1, 1⟩⟩], some ⟨.openString, ⟨3, 2, 2⟩⟩) := by cbv
  have herror : tokensOf "y\n 'z" = .error ⟨.openString, ⟨3, 2, 2⟩⟩ := by
    rw [tokensOf, hback]
  have hspace : Text.isBlank ' ' = true := by cbv
  have hfeed : Text.isBlank '\n' = true := by cbv
  have hblanks : ∀ c ∈ "\n ".toList, Text.isBlank c = true := by simp [hspace, hfeed]
  have happend := tokensOf_append hfront (by decide) hblanks "y\n 'z"
  rw [hback, herror] at happend
  exact ⟨hfront, happend⟩

end TemplateExpr
