/-
# Sequences of expressions

No expression goes on with the first token of another one.  So where expressions stand behind each
other, with a blank between any two of them, a parser that is asked again and again finds each of
them as if it stood alone, on the level on which it began, and then it meets the end.  Asked for the
last expression, it does not take the first one for it, and names the token behind that one.

Main statements:
* `expression_of_derives`, `expression_of_endOfSource`: one request;
* `answers_of_reads`: as many requests as there are expressions;
* `answers_joined`: sources of expressions with blanks between them.
-/
import TemplateExpr.Proofs.Parsing.Sessions
import TemplateExpr.Proofs.Source.Joining

namespace TemplateExpr

/-! ## Where expressions begin -/

variable {α : Type} {tokens : α → List Token} {tree : α → Expr} {as : List α}

/-- Where an expression begins, or behind all of them, no other one goes on. -/
theorem Cursor.Reads.endsAt {T : Tier} {c c' : Cursor} (h : c.Reads (as.flatMap tokens) c')
    (hends : T.EndsAt c'.current.item) (has : ∀ a ∈ as, Derives .disjunction (tokens a) (tree a)) :
    T.EndsAt c.current.item := by
  obtain _ | ⟨a, as⟩ := as
  · cases h
    exact hends
  · have hder := has a List.mem_cons_self
    obtain ⟨t, ts, hts⟩ := List.exists_cons_of_ne_nil hder.ne_nil
    rw [List.flatMap_cons, hts, List.cons_append] at h
    rw [hts] at hder
    apply Tier.endsAt_of_tier?_eq_none
    rw [(reads_cons_iff.1 h).1]
    exact hder.tier?_of_mem_head? t rfl

/-- Behind some of its tokens the cursor is at the next one. -/
theorem Cursor.Reads.current_of_upcoming {ls ms : List (Located Token)} {u : Located Token}
    {c c' : Cursor} (h : c.Reads (ls.map Located.item) c') (hc : c.ahead.Proper)
    (hup : c.upcoming = (ls ++ u :: ms, none)) (hne : c'.current.item ≠ .endOfSource) :
    c'.current = u := by
  obtain ⟨ks, hks, hread⟩ := h.upcoming hc
  rw [hup, upcoming_of_ne hne] at hread
  have hlength : ls.length = ks.length := by
    rw [← List.length_map Located.item, ← hks, List.length_map]
  have hrest := (List.append_inj (congrArg Prod.fst hread) hlength).2
  exact (List.cons.inj hrest).1.symm

/-! ## Texts -/

/-- The blanks in front of the first token of a source. -/
def leadingBlanks (source : String) : List Char := source.toList.takeWhile Text.isBlank

section

variable {p : Position} {text : List Char} {t : Located Token} {ts : List (Located Token)}

/-- The first token of a text stands behind the blanks. -/
theorem Splits.position_eq (h : Splits p text (t :: ts)) :
    t.position = p.after (text.takeWhile Text.isBlank) := by
  cases h with
  | cons hblanks hlexeme => rw [(takeWhile_append_lexeme hblanks hlexeme _).1]

/-- The blanks of a text end at its first token, whatever is behind the text. -/
theorem Splits.takeWhile_append (h : Splits p text (t :: ts)) (back : List Char) :
    (text ++ back).takeWhile Text.isBlank = text.takeWhile Text.isBlank := by
  cases h with
  | cons hblanks hlexeme =>
    rw [List.append_assoc, List.append_assoc, (takeWhile_append_lexeme hblanks hlexeme _).1,
      (takeWhile_append_lexeme hblanks hlexeme _).1]

/-- Where the first token of a source stands. -/
theorem Tokenizes.exists_tokensOf_cons {source : String} {t : Token} {ts : List Token}
    (h : Tokenizes source.toList (t :: ts)) :
    ∃ us, tokensOf source = .ok (⟨t, Position.start.after (leadingBlanks source)⟩ :: us) := by
  obtain ⟨ls, hls, hitems⟩ := h.exists_tokensOf
  obtain ⟨⟨item, position⟩, us, rfl, rfl, -⟩ := List.map_eq_cons_iff.1 hitems
  have hposition : position = _ := ((tokensOf_eq_ok_iff_splits source _).1 hls).position_eq
  subst hposition
  exact ⟨us, hls⟩

end

/-- Joined texts begin with the first one. -/
theorem exists_intercalate_eq_append (separator first : String) (more : List String) :
    ∃ back, (separator.intercalate (first :: more)).toList = first.toList ++ back := by
  cases more with
  | nil => exact ⟨[], by simp⟩
  | cons second more =>
    refine ⟨separator.toList ++ (separator.intercalate (second :: more)).toList, ?_⟩
    rw [String.intercalate_cons_cons, String.toList_append, String.toList_append,
      List.append_assoc]

/-- In texts with a blank between any two of them the first token of the second text stands where
that text begins, behind its own blanks. -/
theorem tokensOf_intercalate_cons {text : α → String} {first second : α} {more : List α} {t : Token}
    {ts : List Token} (h : ∀ a ∈ first :: second :: more, Tokenizes (text a).toList (tokens a))
    (hsecond : tokens second = t :: ts) :
    ∃ ls ms, ls.map Located.item = tokens first ∧
      tokensOf (" ".intercalate ((first :: second :: more).map text)) = .ok (ls ++
        ⟨t, Position.start.after
          ((text first).toList ++ ' ' :: leadingBlanks (text second))⟩ :: ms) := by
  have hmore : ∀ a ∈ second :: more, Tokenizes (text a).toList (tokens a) :=
    fun a ha => h a (List.mem_cons_of_mem first ha)
  have hrest := separates_blank.intercalate hmore
  rw [hsecond, List.cons_append] at hrest
  -- the blanks of what is behind the first text are those of the second one
  have hblanks : (" ".intercalate ((second :: more).map text)).toList.takeWhile Text.isBlank =
      leadingBlanks (text second) := by
    obtain ⟨ls, hls, hitems⟩ := hmore second List.mem_cons_self .start
    rw [hsecond] at hitems
    obtain ⟨u, us, rfl, -, -⟩ := List.map_eq_cons_iff.1 hitems
    obtain ⟨back, hback⟩ := exists_intercalate_eq_append " " (text second) (more.map text)
    rw [List.map_cons, hback, hls.takeWhile_append, leadingBlanks]
  obtain ⟨ls, hls, hitems⟩ := h first List.mem_cons_self .start
  obtain ⟨ms, hms, hmitems⟩ := hrest ((Position.start.after (text first).toList).after [' '])
  obtain ⟨⟨item, position⟩, us, rfl, rfl, -⟩ := List.map_eq_cons_iff.1 hmitems
  have hposition : position = _ := hms.position_eq
  rw [hblanks, ← Position.after_append, ← Position.after_append] at hposition
  subst hposition
  have hspace : Text.isBlank ' ' = true := by decide
  have hsplits := hls.append (hms.append_blanks (by simpa using hspace))
    (Token.endsBefore_of_blanked (separates_blank.blanked _))
  refine ⟨ls, us, hitems, ?_⟩
  rw [tokensOf_eq_ok_iff_splits, List.map_cons, List.map_cons, String.intercalate_cons_cons,
    String.toList_append, String.toList_append, List.append_assoc]
  exact hsplits

/-- A parser at the beginning of a source has its tokens in front of it, and behind them the end. -/
theorem exists_ofScanner_of_tokensOf {source : String} {ls : List (Located Token)} (limit : Nat)
    (h : tokensOf source = .ok ls) : ∃ c c',
      Parser.ofScanner limit (Scanner.ofSource source) = .ok ⟨c, limit, 0⟩ ∧ c.ahead.Proper ∧
      c.upcoming = (ls, none) ∧ c.Reads (ls.map Located.item) c' ∧
      c'.current = ⟨.endOfSource, Position.start.after source.toList⟩ := by
  have hproper := proper_streamOf source
  obtain ⟨t, c', hhead, hreads, hend⟩ := reads_of_tokensOf h
  have hposition := (hreads.closesAt (closesAt_streamOf hhead)).current hend
  refine ⟨⟨t, (streamOf source).tail⟩, c', ?_, hproper.tail, ?_, hreads, ?_⟩
  · rw [ofScanner_ofSource, hhead]
  · rw [Cursor.upcoming_of_head hproper hhead, tokensOf_eq_ok_iff.1 h]
  · rw [← hend, ← hposition]

/-! ## One request -/

namespace Parse

/-- At the end of the source there is no expression. -/
theorem expression_of_endOfSource {c : Cursor} (h : c.current.item = .endOfSource) (n : Nat) :
    expression (n + 1) c = .error ⟨.missing .expression, 1⟩ c := by
  obtain ⟨⟨item, position⟩, ahead⟩ := c
  obtain rfl : item = .endOfSource := h
  rfl

end Parse

namespace Parser

variable {p p' : Parser} {c : Cursor} {e : Expr} {ts : List Token}

/-- An expression at the cursor is found, and the parser is behind it on the same level. -/
theorem expression_of_derives (hder : Derives .disjunction ts e) (hp : p.cursor.ahead.Proper)
    (hts : p.cursor.Reads ts c) (hends : Tier.disjunction.EndsAt c.current.item)
    (hcost : e.cost < p.limit - p.depth) : p.expression = (.ok e, { p with cursor := c }) := by
  rw [expression_eq, Parse.expression_of_derives hder hp hts hends hcost]

theorem expression_of_endOfSource (h : p.cursor.current.item = .endOfSource)
    (hlevel : p.depth < p.limit) : p.expression =
      (.error (.sourceEnded .expression p.cursor.current.position),
        { p with depth := p.depth + 1 }) := by
  obtain ⟨n, hn⟩ : ∃ n, p.limit - p.depth = n + 1 := ⟨p.limit - p.depth - 1, by omega⟩
  rw [expression_eq, hn, Parse.expression_of_endOfSource h]
  dsimp only
  rw [SyntaxError.ofStop, SyntaxError.missing, if_pos h]

/-- Where the source goes on behind an expression, it is not the last one. -/
theorem answer_last_of_expression (h : p.expression = (.ok e, p'))
    (hne : p'.cursor.current.item ≠ .endOfSource) : (p.answer .last).1 =
      .error (.wrongToken .endOfSource p'.cursor.current.item p'.cursor.current.position) := by
  rw [answer, lastExpression, h]
  dsimp only
  rw [if_neg hne, SyntaxError.missing, if_neg hne]

/-- Where a token that goes on with no expression stands behind an expression, that expression is
not the last one. -/
theorem answer_last_of_upcoming {ls ms : List (Located Token)} {u : Located Token}
    (hp : p.cursor.ahead.Proper) (hup : p.cursor.upcoming = (ls ++ u :: ms, none))
    (hreads : p.cursor.Reads ((ls ++ u :: ms).map Located.item) c)
    (hder : Derives .disjunction (ls.map Located.item) e) (hcost : e.cost < p.limit - p.depth)
    (hu : u.item.tier? = none) :
    (p.answer .last).1 = .error (.wrongToken .endOfSource u.item u.position) := by
  rw [List.map_append, List.map_cons] at hreads
  obtain ⟨c₁, hfirst, hrest⟩ := hreads.split
  obtain ⟨hitem, hne, -⟩ := Cursor.reads_cons_iff.1 hrest
  rw [← hitem] at hne
  obtain rfl := hfirst.current_of_upcoming hp hup hne
  have hexpression := expression_of_derives hder hp hfirst (Tier.endsAt_of_tier?_eq_none hu) hcost
  exact answer_last_of_expression hexpression hne

/-! ## Many requests -/

/-- Expressions that stand behind each other are found one after the other, and the parser goes on
behind them on the level on which it began. -/
theorem answers_of_reads (hp : p.cursor.ahead.Proper)
    (hreads : p.cursor.Reads (as.flatMap tokens) c)
    (hends : Tier.disjunction.EndsAt c.current.item)
    (has : ∀ a ∈ as, Derives .disjunction (tokens a) (tree a) ∧
      (tree a).cost < p.limit - p.depth) (requests : List Request) :
    p.answers (List.replicate as.length .expression ++ requests) =
      (as.map fun a => .ok (tree a)) ++ answers { p with cursor := c } requests := by
  induction as generalizing p with
  | nil =>
    cases hreads
    rfl
  | cons a as ih =>
    rw [List.flatMap_cons] at hreads
    obtain ⟨c₁, hfirst, hrest⟩ := hreads.split
    have hmore : ∀ b ∈ as, Derives .disjunction (tokens b) (tree b) ∧
        (tree b).cost < p.limit - p.depth :=
      fun b hb => has b (List.mem_cons_of_mem a hb)
    obtain ⟨hder, hcost⟩ := has a List.mem_cons_self
    -- the first expression ends where the next one begins, or where all of them end
    have hends₁ := hrest.endsAt hends fun b hb => (hmore b hb).1
    have hone := expression_of_derives hder hp hfirst hends₁ hcost
    have hbehind := ih (p := { p with cursor := c₁ }) (hfirst.proper hp) hrest hmore
    rw [List.length_cons, List.replicate_succ, List.cons_append, answers, answer, hone, hbehind]
    rfl

/-! ## Sources -/

/-- Sources of expressions with a blank between any two of them: a parser that is asked for as many
expressions finds them all, one after the other, and asked once more it is at the end.  Asked for
the last expression first, it stops at the first token of the second source. -/
theorem answers_joined {limit : Nat} {parts : List (String × Expr)} (hne : parts ≠ [])
    (hparts : ∀ q ∈ parts, parseWithin limit q.1 = .ok q.2) :
    ∃ p, ofScanner limit (Scanner.ofSource (" ".intercalate (parts.map Prod.fst))) = .ok p ∧
      p.answers (List.replicate (parts.length + 1) .expression) =
        (parts.map fun q => .ok q.2) ++ [.error (.sourceEnded .expression
          (Position.start.after (" ".intercalate (parts.map Prod.fst)).toList))] ∧
      ∀ first second more, parts = first :: second :: more →
        ∃ t ts, tokensOf second.1 =
            .ok (⟨t, Position.start.after (leadingBlanks second.1)⟩ :: ts) ∧
          (p.answer .last).1 = .error (.wrongToken .endOfSource t
            (Position.start.after (first.1.toList ++ ' ' :: leadingBlanks second.1))) := by
  obtain ⟨tokens, htokens⟩ := exists_tokens_of_parts hparts
  have hjoined : Tokenizes (" ".intercalate (parts.map Prod.fst)).toList
      (parts.flatMap tokens) := by
    obtain ⟨first, more, rfl⟩ := List.exists_cons_of_ne_nil hne
    exact separates_blank.intercalate fun q hq => (htokens q hq).1
  obtain ⟨ls, hls, hitems⟩ := hjoined.exists_tokensOf
  obtain ⟨c, c', hp, hproper, hup, hreads, hend⟩ := exists_ofScanner_of_tokensOf limit hls
  have hends : Tier.disjunction.EndsAt c'.current.item := by
    rw [hend]
    exact Tier.endsAt_endOfSource _
  have hpositive : 0 < limit := by
    obtain ⟨q, hq⟩ := List.exists_mem_of_ne_nil parts hne
    exact Nat.zero_lt_of_lt (htokens q hq).2.2
  refine ⟨_, hp, ?_, ?_⟩
  · have hlast := expression_of_endOfSource (p := ⟨c', limit, 0⟩) (by rw [hend]) hpositive
    rw [List.replicate_add, answers_of_reads hproper (hitems ▸ hreads) hends
      fun q hq => (htokens q hq).2]
    show _ ++ [(expression ⟨c', limit, 0⟩).1] = _
    rw [hlast, hend]
  · -- the token behind the first expression is the first one of the second
    rintro first second more rfl
    obtain ⟨hfirst, hsecond⟩ : first ∈ first :: second :: more ∧ second ∈ first :: second :: more :=
      ⟨by simp, by simp⟩
    obtain ⟨htokenizes, hder, -⟩ := htokens second hsecond
    obtain ⟨t, ts, hts⟩ := List.exists_cons_of_ne_nil hder.ne_nil
    rw [hts] at htokenizes hder
    obtain ⟨us, hus⟩ := htokenizes.exists_tokensOf_cons
    refine ⟨t, us, hus, ?_⟩
    obtain ⟨front, back, hfront, hsource⟩ :=
      tokensOf_intercalate_cons (fun q hq => (htokens q hq).1) hts
    obtain rfl := Except.ok.inj (hls.symm.trans hsource)
    obtain ⟨-, hfirstder, hcost⟩ := htokens first hfirst
    rw [← hfront] at hfirstder
    exact answer_last_of_upcoming (p := ⟨c, limit, 0⟩) hproper hup hreads hfirstder hcost
      (hder.tier?_of_mem_head? t rfl)

/-- The second source begins with a line of its own. -/
theorem answers_joined_group :
    parseWithin 2 "a.b" = .ok (.field (.var "a") "b") ∧
    parseWithin 2 "\n(c)" = .ok (.group (.var "c")) ∧
    ∃ p, ofScanner 2 (Scanner.ofSource "a.b \n(c)") = .ok p ∧
      p.answers [.expression, .expression, .expression] = [.ok (.field (.var "a") "b"),
        .ok (.group (.var "c")), .error (.sourceEnded .expression ⟨8, 2, 4⟩)] ∧
      (p.answer .last).1 = .error (.wrongToken .endOfSource .openParen ⟨5, 2, 1⟩) := by
  have hfield : parseWithin 2 "a.b" = .ok (.field (.var "a") "b") := by
    have hstream : streamOf "a.b" = ⟨[.ok ⟨.identifier "a", ⟨0, 1, 1⟩⟩, .ok ⟨.dot, ⟨1, 1, 2⟩⟩,
        .ok ⟨.identifier "b", ⟨2, 1, 3⟩⟩], .ok ⟨.endOfSource, ⟨3, 1, 4⟩⟩⟩ := by cbv
    rw [parseWithin_of_head (congrArg TokenStream.head hstream), hstream]
    rfl
  have hstream : streamOf "\n(c)" = ⟨[.ok ⟨.openParen, ⟨1, 2, 1⟩⟩,
      .ok ⟨.identifier "c", ⟨2, 2, 2⟩⟩, .ok ⟨.closeParen, ⟨3, 2, 3⟩⟩],
      .ok ⟨.endOfSource, ⟨4, 2, 4⟩⟩⟩ := by cbv
  have hgroup : parseWithin 2 "\n(c)" = .ok (.group (.var "c")) := by
    rw [parseWithin_of_head (congrArg TokenStream.head hstream), hstream]
    rfl
  have hparts : ∀ q ∈ [("a.b", Expr.field (.var "a") "b"), ("\n(c)", .group (.var "c"))],
      parseWithin 2 q.1 = .ok q.2 := by
    simp [hfield, hgroup]
  obtain ⟨p, hp, hanswers, hlast⟩ := answers_joined (by simp) hparts
  obtain ⟨t, ts, hts, hanswer⟩ := hlast _ _ _ rfl
  have htokens : tokensOf "\n(c)" = .ok [⟨.openParen, ⟨1, 2, 1⟩⟩, ⟨.identifier "c", ⟨2, 2, 2⟩⟩,
      ⟨.closeParen, ⟨3, 2, 3⟩⟩] := by
    rw [tokensOf, hstream]
    rfl
  obtain ⟨hfirst, -⟩ := List.cons.inj (Except.ok.inj (htokens.symm.trans hts))
  obtain rfl : Token.openParen = t := congrArg Located.item hfirst
  have hplace : Position.start.after ("a.b".toList ++ ' ' :: leadingBlanks "\n(c)") =
      ⟨5, 2, 1⟩ := by
    decide
  have hend : Position.start.after "a.b \n(c)".toList = ⟨8, 2, 4⟩ := by
    decide
  refine ⟨hfield, hgroup, p, hp, ?_, ?_⟩
  · rw [← hend]
    exact hanswers
  · rw [← hplace]
    exact hanswer

end Parser

end TemplateExpr
