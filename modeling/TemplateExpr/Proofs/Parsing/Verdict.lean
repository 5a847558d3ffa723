/-
# What the answer for a source says

Each answer of the parser, except that the source is nested too deeply, says something about the
tokens before the first error: that they are an expression, that they begin one, or with which of
them they stop to begin one.  That no expression goes on in some way is seen from a cursor over the
tokens of such an expression: there the parser would do the same, and succeed.

Main statements:
* `not_derives_of_ok`, `not_derives_of_error`: a parser that stops could not have gone on;
* `expression_eq_ok_iff`: which expression is found wherever a parser begins;
* `verdict_parseWithin`: every answer is right about the tokens;
* `parseWithin_classified`: the tokens decide which answer is given.
-/
import TemplateExpr.Proofs.Parsing.Locality
import TemplateExpr.Proofs.Parsing.Source
import TemplateExpr.Proofs.Parsing.Viability

namespace TemplateExpr

/-! ## Where expressions end -/

namespace Parse

variable {ts us : List Token} {e e' : Expr} {b n : Nat} {c c' : Cursor}

/-- Behind an expression that has been parsed no other one goes on with the next token. -/
theorem not_derives_of_ok (hc : c.ahead.Proper) (h : expression b c = .ok e c')
    (hne : c'.current.item ≠ .endOfSource) (hts : c.Reads ts c')
    (hitem : (Cursor.ofTokens us).current.item = c'.current.item) :
    ¬ Derives .disjunction (ts ++ us) e' := by
  intro he'
  have hread := Cursor.reads_ofTokens us fun t ht =>
    he'.ne_endOfSource t (List.mem_append_left us ht)
  have hproper := Cursor.proper_ofTokens he'.ne_endOfSource
  -- a budget for both expressions
  have hfollows := follows_expression (Nat.le_add_right b (e'.cost + 1)) hc
  obtain ⟨vs, hvs, hgo⟩ := hfollows.ok h
  obtain rfl := hts.unique hvs hc
  have hrun := hgo hproper hread hitem
  rw [expression_ofTokens he' (by omega), EStateM.Result.ok.injEq] at hrun
  apply hne
  rw [← hitem, ← hrun.2]
  rfl

/-- Where something is missing no expression goes on with the next token. -/
theorem not_derives_of_error {wanted : Expectation} (hc : c.ahead.Proper)
    (h : expression b c = .error ⟨.missing wanted, n⟩ c') (hts : c.Reads ts c')
    (hitem : (Cursor.ofTokens us).current.item = c'.current.item) :
    ¬ Derives .disjunction (ts ++ us) e' := by
  intro he'
  have hread := Cursor.reads_ofTokens us fun t ht =>
    he'.ne_endOfSource t (List.mem_append_left us ht)
  have hproper := Cursor.proper_ofTokens he'.ne_endOfSource
  have hfollows := follows_expression (Nat.le_add_right b (e'.cost + 1)) hc
  obtain ⟨vs, hvs, hgo⟩ := hfollows.error h (by simp)
  obtain rfl := hts.unique hvs.reads hc
  have hstop := hread.stopsAfter (.missing (Cursor.ofTokens us) wanted)
  rw [List.append_nil] at hstop
  have hrun := hgo hproper hstop hitem
  rw [expression_ofTokens he' (by omega)] at hrun
  simp at hrun

/-- Behind an expression that has been parsed, the next token is none with which an expression goes
on. -/
theorem not_viable_of_ok (hc : c.ahead.Proper) (h : expression b c = .ok e c')
    (hts : c.Reads ts c') : ¬ Viable .disjunction (ts ++ [c'.current.item]) := by
  rintro ⟨us, e', he'⟩
  rw [List.append_assoc] at he'
  by_cases hend : c'.current.item = .endOfSource
  · exact he'.ne_endOfSource _ (by simp) hend
  · exact not_derives_of_ok hc h hend hts rfl he'

/-- Where something is missing, the next token is none with which an expression goes on. -/
theorem not_viable_of_error {wanted : Expectation} (hc : c.ahead.Proper)
    (h : expression b c = .error ⟨.missing wanted, n⟩ c') (hts : c.Reads ts c') :
    ¬ Viable .disjunction (ts ++ [c'.current.item]) := by
  rintro ⟨us, e', he'⟩
  rw [List.append_assoc] at he'
  exact not_derives_of_error hc h hts rfl he'

/-- The expression that is found is the one with which nothing goes on, if the budget covers its
cost. -/
theorem expression_eq_ok_iff (hc : c.ahead.Proper) : expression b c = .ok e c' ↔
    ∃ ts, c.Reads ts c' ∧ Derives .disjunction ts e ∧
      ¬ Viable .disjunction (ts ++ [c'.current.item]) ∧ e.cost < b := by
  constructor
  · intro h
    obtain ⟨n, rfl, ts, hts, hder, hcost⟩ := spans_of_expression h
    exact ⟨ts, hts, hder, not_viable_of_ok hc h hts, Nat.lt_succ_of_le hcost⟩
  · rintro ⟨ts, hts, hder, hnot, hcost⟩
    exact expression_of_endsBehind hder hc hts (fun _ _ _ => hnot) hcost

/-- What has been read where something is missing is no expression. -/
theorem not_derives_of_missing {wanted : Expectation} (hc : c.ahead.Proper)
    (h : expression b c = .error ⟨.missing wanted, n⟩ c') (hts : c.Reads ts c') :
    ¬ Derives .disjunction ts e := by
  intro he
  -- with a budget for the expression the same would be missing, but the expression is found
  have hfollows := follows_expression (Nat.le_add_right b (e.cost + 1)) hc
  obtain ⟨vs, hvs, hgo⟩ := hfollows.error h (by simp)
  have hrun := hgo hc hvs rfl
  have hnot := not_viable_of_error hc h hts
  rw [(expression_eq_ok_iff hc).2 ⟨ts, hts, he, hnot, by omega⟩] at hrun
  simp at hrun

end Parse

/-! ## Verdicts -/

/-- What an answer says about the tokens of a source before the first error, and about the error. -/
inductive Verdict (source : String) (tokens : List (Located Token))
    (fault : Option LexicalError) : Except SyntaxError Expr → Prop
  | tooDeep (limit : Nat) (p : Position) : Verdict source tokens fault (.error (.tooDeep limit p))
  /-- All tokens begin an expression, but what is behind them cannot be read. -/
  | lexical {e : LexicalError} (hviable : Viable .disjunction (tokens.map Located.item))
      (hfault : fault = some e) : Verdict source tokens fault (.error (.lexical e))
  /-- The tokens up to the given one begin an expression, and with it they do not. -/
  | wrongToken {ls rest : List (Located Token)} {t : Located Token} (wanted : Expectation)
      (htokens : tokens = ls ++ t :: rest) (hviable : Viable .disjunction (ls.map Located.item))
      (hnot : ¬ Viable .disjunction ((ls ++ [t]).map Located.item)) :
      Verdict source tokens fault (.error (.wrongToken wanted t.item t.position))
  /-- All tokens begin an expression, but they are none. -/
  | sourceEnded (wanted : Expectation) (hfault : fault = none)
      (hviable : Viable .disjunction (tokens.map Located.item))
      (hnot : ∀ e, ¬ Derives .disjunction (tokens.map Located.item) e) :
      Verdict source tokens fault
        (.error (.sourceEnded wanted (Position.start.after source.toList)))
  /-- All tokens are an expression. -/
  | ok {e : Expr} (hfault : fault = none)
      (hder : Derives .disjunction (tokens.map Located.item) e) : Verdict source tokens fault (.ok e)

section

variable {limit : Nat} {source : String} {t : Located Token} {tokens : List (Located Token)}
  {fault : Option LexicalError}

/-- Something is missing: the tokens read begin an expression, and with the next token, or at the
end, they do not. -/
theorem verdict_of_missing {ts : List Token} {c : Cursor} (wanted : Expectation)
    (hhead : (streamOf source).head = .ok t) (htokens : (streamOf source).untilError = (tokens, fault))
    (hts : Cursor.Reads ⟨t, (streamOf source).tail⟩ ts c) (hviable : Viable .disjunction ts)
    (hnot : ∀ us e, (Cursor.ofTokens us).current.item = c.current.item →
      ¬ Derives .disjunction (ts ++ us) e) :
    Verdict source tokens fault (.error (.missing wanted c.current)) := by
  have hcloses := closesAt_streamOf hhead
  obtain ⟨ls, rfl, hup⟩ := hts.upcoming hcloses.proper
  rw [Cursor.upcoming_of_head (proper_streamOf source) hhead, htokens, Prod.mk.injEq] at hup
  obtain ⟨rfl, rfl⟩ := hup
  by_cases hend : c.current.item = .endOfSource
  · rw [SyntaxError.missing, if_pos hend, (hts.closesAt hcloses).current hend,
      Cursor.upcoming_of_eq hend, List.append_nil]
    refine .sourceEnded wanted rfl hviable fun e he => hnot [] e hend.symm ?_
    rwa [List.append_nil]
  · rw [SyntaxError.missing, if_neg hend, Cursor.upcoming_of_ne hend]
    apply Verdict.wrongToken wanted rfl hviable
    rintro ⟨us, e, he⟩
    apply hnot (c.current.item :: us) e rfl
    simpa using he

/-- Every answer is right about the tokens. -/
theorem verdict_parseWithin (limit : Nat) (htokens : (streamOf source).untilError = (tokens, fault)) :
    Verdict source tokens fault (parseWithin limit source) := by
  cases hhead : (streamOf source).head with
  | error e =>
    rw [parseWithin_of_head_eq_error hhead]
    rw [untilError_of_head_eq_error hhead, Prod.mk.injEq] at htokens
    obtain ⟨rfl, rfl⟩ := htokens
    exact .lexical ((derives_nil .disjunction).viable [.nil] rfl) rfl
  | ok t =>
    have hproper := proper_streamOf source
    have hup := (Cursor.upcoming_of_head hproper hhead).trans htokens
    cases hrun : Parse.expression limit ⟨t, (streamOf source).tail⟩ with
    | ok e c =>
      obtain ⟨n, rfl, ts, hts, hder, -⟩ := Parse.spans_of_expression hrun
      rw [parseWithin_of_ok hhead hrun]
      by_cases hend : c.current.item = .endOfSource
      · obtain ⟨ls, rfl, hup'⟩ := hts.upcoming hproper.tail
        rw [hup, Cursor.upcoming_of_eq hend, List.append_nil, Prod.mk.injEq] at hup'
        obtain ⟨rfl, rfl⟩ := hup'
        rw [if_pos hend]
        exact .ok rfl hder
      · -- the token behind the expression is in the way of all longer ones
        rw [if_neg hend]
        exact verdict_of_missing .endOfSource hhead htokens hts
          (hder.viable [] (List.append_nil ts).symm)
          fun us e' hitem => Parse.not_derives_of_ok hproper.tail hrun hend hts hitem
    | error f c =>
      obtain ⟨s, n⟩ := f
      rw [parseWithin_of_error hhead hrun]
      cases s with
      | tooDeep => exact .tooDeep limit c.current.position
      | lexical e =>
        obtain ⟨ts, hts, hviable⟩ := Parse.viable_of_expression_eq_error hrun (by simp)
        obtain ⟨rfl, hfault⟩ := hts.upcoming hproper.tail
        rw [hup] at hviable hfault
        exact .lexical hviable hfault
      | missing wanted =>
        obtain ⟨ts, hts, hviable⟩ := Parse.viable_of_expression_eq_error hrun (by simp)
        exact verdict_of_missing wanted hhead htokens hts.reads hviable
          fun us e' hitem => Parse.not_derives_of_error hproper.tail hrun hts.reads hitem

/-! ## The answer for given tokens -/

theorem Viable.take {ls : List (Located Token)} (h : Viable .disjunction (ls.map Located.item))
    (k : Nat) : Viable .disjunction ((ls.take k).map Located.item) := by
  rw [← List.take_append_drop k ls, List.map_append] at h
  exact h.of_append

/-- The tokens begin an expression if all their beginnings do. -/
theorem viable_of_take (h : ∀ k < tokens.length,
    Viable .disjunction ((tokens.take (k + 1)).map Located.item)) :
    Viable .disjunction (tokens.map Located.item) := by
  cases tokens with
  | nil => exact (derives_nil .disjunction).viable [.nil] rfl
  | cons t rest =>
    have hall := h rest.length (by simp)
    rwa [← List.length_cons, List.take_length] at hall

/-- The beginnings that can go on are those before the wrong token. -/
theorem viable_take_iff {ls rest : List (Located Token)}
    (hviable : Viable .disjunction (ls.map Located.item))
    (hnot : ¬ Viable .disjunction ((ls ++ [t]).map Located.item)) (k : Nat) :
    Viable .disjunction (((ls ++ t :: rest).take k).map Located.item) ↔ k ≤ ls.length := by
  constructor
  · intro h
    by_cases hle : k ≤ ls.length
    · exact hle
    · have hlt : ls.length < k := Nat.lt_of_not_le hle
      apply absurd _ hnot
      have htake := h.take (ls.length + 1)
      rwa [List.take_take, Nat.min_eq_left hlt, Nat.succ_eq_add_one,
        List.take_length_add_append] at htake
  · intro hle
    rw [List.take_append_of_le_length hle]
    exact hviable.take k

variable {answer : Except SyntaxError Expr}

/-- The first token with which the tokens stop to begin an expression is the wrong one. -/
theorem Verdict.eq_wrongToken (h : Verdict source tokens fault answer)
    (hdeep : ∀ n p, answer ≠ .error (.tooDeep n p)) {k : Nat} (ht : tokens[k]? = some t)
    (hnot : ¬ Viable .disjunction ((tokens.take (k + 1)).map Located.item))
    (hleast : ∀ j < k, Viable .disjunction ((tokens.take (j + 1)).map Located.item)) :
    ∃ wanted, answer = .error (.wrongToken wanted t.item t.position) := by
  cases h with
  | tooDeep n p => exact absurd rfl (hdeep n p)
  | lexical hviable => exact absurd (hviable.take (k + 1)) hnot
  | sourceEnded _ _ hviable => exact absurd (hviable.take (k + 1)) hnot
  | ok _ hder => exact absurd ((hder.viable [] (by simp)).take (k + 1)) hnot
  | @wrongToken ls rest u wanted htokens hviable hnot' =>
    subst htokens
    have hiff : ∀ j, Viable .disjunction (((ls ++ u :: rest).take j).map Located.item) ↔
        j ≤ ls.length := viable_take_iff hviable hnot'
    rw [hiff] at hnot
    -- behind the wrong token the beginnings go on with nothing, before it all of them do
    have hk : k = ls.length := by
      by_cases hlt : ls.length < k
      · have hle := (hiff _).1 (hleast ls.length hlt)
        omega
      · omega
    subst hk
    obtain rfl : u = t := by simpa using ht
    exact ⟨wanted, rfl⟩

/-- Where all tokens begin an expression, none of them is the wrong one. -/
theorem Viable.append_singleton {ls rest : List (Located Token)}
    (h : Viable .disjunction ((ls ++ t :: rest).map Located.item)) :
    Viable .disjunction ((ls ++ [t]).map Located.item) := by
  rw [List.append_cons, List.map_append] at h
  exact h.of_append

theorem Verdict.eq_lexical (h : Verdict source tokens fault answer)
    (hdeep : ∀ n p, answer ≠ .error (.tooDeep n p)) {e : LexicalError} (hfault : fault = some e)
    (hviable : Viable .disjunction (tokens.map Located.item)) :
    answer = .error (.lexical e) := by
  cases h with
  | tooDeep n p => exact absurd rfl (hdeep n p)
  | lexical _ hfault' => rw [Option.some.inj (hfault'.symm.trans hfault)]
  | wrongToken _ htokens _ hnot => exact absurd (htokens ▸ hviable).append_singleton hnot
  | sourceEnded _ hfault' => simp [hfault'] at hfault
  | ok hfault' => simp [hfault'] at hfault

theorem Verdict.eq_ok (h : Verdict source tokens fault answer)
    (hdeep : ∀ n p, answer ≠ .error (.tooDeep n p)) {e : Expr} (hfault : fault = none)
    (hder : Derives .disjunction (tokens.map Located.item) e) : answer = .ok e := by
  have hviable := hder.viable [] (List.append_nil _).symm
  cases h with
  | tooDeep n p => exact absurd rfl (hdeep n p)
  | lexical _ hfault' => simp [hfault'] at hfault
  | wrongToken _ htokens _ hnot => exact absurd (htokens ▸ hviable).append_singleton hnot
  | sourceEnded _ _ _ hnot => exact absurd hder (hnot e)
  | ok _ hder' => rw [hder'.unique hder]

theorem Verdict.eq_sourceEnded (h : Verdict source tokens fault answer)
    (hdeep : ∀ n p, answer ≠ .error (.tooDeep n p)) (hfault : fault = none)
    (hviable : Viable .disjunction (tokens.map Located.item))
    (hnot : ∀ e, ¬ Derives .disjunction (tokens.map Located.item) e) : ∃ wanted,
    answer = .error (.sourceEnded wanted (Position.start.after source.toList)) := by
  cases h with
  | tooDeep n p => exact absurd rfl (hdeep n p)
  | lexical _ hfault' => simp [hfault'] at hfault
  | wrongToken _ htokens _ hnot' => exact absurd (htokens ▸ hviable).append_singleton hnot'
  | sourceEnded wanted => exact ⟨wanted, rfl⟩
  | ok _ hder => exact absurd hder (hnot _)

end

/-- The tokens decide which answer is given. -/
theorem parseWithin_classified (limit : Nat) (source : String) {tokens : List (Located Token)}
    {fault : Option LexicalError} (htokens : (streamOf source).untilError = (tokens, fault))
    (hdeep : ∀ n p, parseWithin limit source ≠ .error (.tooDeep n p)) :
    (∀ k t, tokens[k]? = some t →
      ¬ Viable .disjunction ((tokens.take (k + 1)).map Located.item) →
      (∀ j < k, Viable .disjunction ((tokens.take (j + 1)).map Located.item)) →
      ∃ wanted, parseWithin limit source = .error (.wrongToken wanted t.item t.position)) ∧
    ((∀ k < tokens.length, Viable .disjunction ((tokens.take (k + 1)).map Located.item)) →
      (∀ e, fault = some e → parseWithin limit source = .error (.lexical e)) ∧
      (fault = none →
        (∀ e, Derives .disjunction (tokens.map Located.item) e →
          parseWithin limit source = .ok e) ∧
        ((∀ e, ¬ Derives .disjunction (tokens.map Located.item) e) →
          ∃ wanted, parseWithin limit source =
            .error (.sourceEnded wanted (Position.start.after source.toList))))) := by
  have hverdict := verdict_parseWithin limit htokens
  constructor
  · intro k t ht hnot hleast
    exact hverdict.eq_wrongToken hdeep ht hnot hleast
  · intro hall
    have hviable := viable_of_take hall
    refine ⟨fun e hfault => hverdict.eq_lexical hdeep hfault hviable, ?_⟩
    intro hfault
    exact ⟨fun e hder => hverdict.eq_ok hdeep hfault hder,
      fun hnot => hverdict.eq_sourceEnded hdeep hfault hviable hnot⟩

/-- Behind `a.` a string is opened and not closed, while `a.` begins an expression. -/
theorem parseWithin_classified_openString :
    parseWithin 9 "a.\"b" = .error (.lexical ⟨.openString, ⟨2, 1, 3⟩⟩) := by
  have hstream : streamOf "a.\"b" = ⟨[.ok ⟨.identifier "a", ⟨0, 1, 1⟩⟩, .ok ⟨.dot, ⟨1, 1, 2⟩⟩,
      .error ⟨.openString, ⟨2, 1, 3⟩⟩], .ok ⟨.endOfSource, ⟨4, 1, 5⟩⟩⟩ := by cbv
  have hdeep : ∀ n p, parseWithin 9 "a.\"b" ≠ .error (.tooDeep n p) := by
    intro n p
    rw [parseWithin_of_head (congrArg TokenStream.head hstream), hstream]
    exact fun h => SyntaxError.noConfusion (Except.error.inj h)
  have hder : Derives .disjunction [.identifier "a", .dot, .identifier "b"]
      (.field (.var "a") "b") :=
    .ofConjunction (.ofContainment (.ofEquality (.ofOrdering (.ofFiltered (.ofAccess
      (.field (.ofPrimary (.var "a")) (.identifier "b")))))))
  refine ((parseWithin_classified 9 "a.\"b" (congrArg TokenStream.untilError hstream)
    hdeep).2 ?_).1 _ rfl
  intro k hk
  rcases Nat.lt_or_ge k 1 with hzero | hone
  · obtain rfl : k = 0 := by omega
    exact hder.viable [.dot, .identifier "b"] rfl
  · obtain rfl : k = 1 := Nat.le_antisymm (Nat.le_of_lt_succ hk) hone
    exact hder.viable [.identifier "b"] rfl

end TemplateExpr
