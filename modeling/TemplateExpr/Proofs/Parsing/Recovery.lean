/-
# Parsers that have met a fault

A parser that has met a token that cannot be read can be asked again.  A stray character is met
again and again, and behind an open string the text has ended, so that only the token before the
string is left.  Behind a number that is too large the text goes on: the parser tries the token
before the number with what is behind it, then the token at which that was given up, and so on.

Where each attempt ends is seen from the tokens, as long as there are levels: behind the longest
beginning of an expression.  Apart from one, an attempt enters no more levels than it takes tokens;
so they do not run out if there are more than two for each token that is left.

Main statements:
* `Cursor.skips_of_error`, `Cursor.Skips.unique`: where an attempt ends;
* `Cursor.Recovers.not_exhausted_or_runsOut`: what the tokens promise is found unless the levels run
  out;
* `exhausted_iff`: when no tree is found any more;
* `exhausted_iff_of_lexical`: when no tree is found any more behind a token that cannot be read.
-/
import TemplateExpr.Proofs.Parsing.Expenses
import TemplateExpr.Proofs.Parsing.Levels
import TemplateExpr.Proofs.Parsing.Verdict

namespace TemplateExpr

/-! ## Attempts -/

namespace Cursor

/-- At the first cursor no expression is found, and a parser that is asked again goes on at the
second one. -/
inductive Skips : Cursor → Cursor → Prop
  /-- The tokens begin an expression and are none, and with the next token they do not even begin
  one: from this token on it goes on. -/
  | wrongToken {c c' : Cursor} {ts : List Token} (hts : c.Reads ts c')
      (hviable : Viable .disjunction ts) (hnone : ∀ e, ¬ Derives .disjunction ts e)
      (hnot : ¬ Viable .disjunction (ts ++ [c'.current.item])) : Skips c c'
  /-- The tokens begin an expression, and behind them stands a fault: the last of them is tried
  again, with what is behind the fault. -/
  | fault {c c' : Cursor} {ts : List Token} {e : LexicalError}
      (hts : c.StopsAfter ts (.lexical e) c') (hviable : Viable .disjunction ts) : Skips c c'

/-- After some attempts an expression is found. -/
inductive Recovers : Cursor → Prop
  /-- The tokens are an expression, and with the next token they do not even begin one. -/
  | found {c c' : Cursor} {ts : List Token} {e : Expr} (hts : c.Reads ts c')
      (hder : Derives .disjunction ts e)
      (hnot : ¬ Viable .disjunction (ts ++ [c'.current.item])) : Recovers c
  | later {c c' : Cursor} (hskips : c.Skips c') (h : Recovers c') : Recovers c

variable {c c' c₁ c₂ : Cursor} {ts us : List Token} {e : Expr}

/-- There is one place up to which the tokens begin an expression and behind which they do not. -/
theorem eq_of_viable (hts : c.Reads ts c₁) (hviable : Viable .disjunction ts)
    (hnot : ¬ Viable .disjunction (ts ++ [c₁.current.item])) (hus : c.Reads us c₂)
    (hviable' : Viable .disjunction us) (hnot' : ¬ Viable .disjunction (us ++ [c₂.current.item])) :
    ts = us ∧ c₁ = c₂ := by
  rcases hts.comparable hus with ⟨vs, rfl, hvs⟩ | ⟨vs, rfl, hvs⟩
  · cases hvs with
    | refl => exact ⟨(List.append_nil ts).symm, rfl⟩
    | step =>
      rw [List.append_cons] at hviable'
      exact absurd hviable'.of_append hnot
  · cases hvs with
    | refl => exact ⟨List.append_nil us, rfl⟩
    | step =>
      rw [List.append_cons] at hviable
      exact absurd hviable.of_append hnot'

/-- No fault stands behind what begins an expression if nothing goes on with the next token. -/
theorem not_viable_of_fault {f : LexicalError} (hts : c.Reads ts c₁)
    (hnot : ¬ Viable .disjunction (ts ++ [c₁.current.item]))
    (hus : c.StopsAfter us (.lexical f) c₂) : ¬ Viable .disjunction us := by
  obtain ⟨vs, rfl, hvs⟩ := hus.split_reads hts
  cases vs with
  | nil => exact absurd rfl (hvs.ne_lexical f)
  | cons v vs =>
    rw [hvs.current_eq_head] at hnot
    rw [List.append_cons]
    exact fun hviable => hnot hviable.of_append

/-- There is one cursor at which a parser goes on. -/
theorem Skips.unique (h : c.Skips c₁) (h' : c.Skips c₂) : c₁ = c₂ := by
  cases h with
  | wrongToken hts hviable _ hnot =>
    cases h' with
    | wrongToken hus hviable' _ hnot' =>
      exact (eq_of_viable hts hviable hnot hus hviable' hnot').2
    | fault hus hviable' => exact absurd hviable' (not_viable_of_fault hts hnot hus)
  | fault hts hviable =>
    cases h' with
    | wrongToken hus _ _ hnot' => exact absurd hviable (not_viable_of_fault hus hnot' hts)
    | fault hus => exact (hts.unique hus).2

/-- Where a parser goes on it has found no expression. -/
theorem Skips.not_derives (h : c.Skips c') (hts : c.Reads ts c₁)
    (hnot : ¬ Viable .disjunction (ts ++ [c₁.current.item])) : ¬ Derives .disjunction ts e := by
  intro hder
  cases h with
  | wrongToken hus hviable hnone hnot' =>
    have hviable' : Viable .disjunction ts := hder.viable [] (List.append_nil ts).symm
    obtain ⟨rfl, -⟩ := eq_of_viable hts hviable' hnot hus hviable hnot'
    exact hnone e hder
  | fault hus hviable => exact not_viable_of_fault hts hnot hus hviable

/-- Where a parser goes on the end of the stream is still ahead. -/
theorem Skips.proper (h : c.Skips c') (hc : c.ahead.Proper) : c'.ahead.Proper := by
  cases h with
  | wrongToken hts => exact hts.proper hc
  | fault hts => exact hts.proper hc

/-- A parser goes on where it stands, or with less in front of it. -/
theorem Skips.eq_or_left_lt (h : c.Skips c') (hc : c.ahead.Proper) :
    c' = c ∨ c'.left < c.left := by
  cases h with
  | wrongToken hts => exact (hts.stopsAfter (.missing c' .expression)).eq_or_left_lt hc
  | fault hts => exact hts.eq_or_left_lt hc

/-- An attempt that fails for another reason than too many levels ends where the tokens say. -/
theorem skips_of_error (hc : c.ahead.Proper) {b n : Nat} {s : Stop}
    (h : Parse.expression b c = .error ⟨s, n⟩ c') (hs : s ≠ .tooDeep) : c.Skips c' := by
  obtain ⟨ts, hts, hviable⟩ := Parse.viable_of_expression_eq_error h hs
  cases s with
  | tooDeep => exact absurd rfl hs
  | lexical e => exact .fault hts hviable
  | missing wanted =>
    have hreads := hts.reads
    exact .wrongToken hreads hviable (fun _ => Parse.not_derives_of_missing hc h hreads)
      (Parse.not_viable_of_error hc h hreads)

end Cursor

/-! ## Attempts of a parser -/

namespace Parser

variable {p : Parser} {e : Expr}

/-- No tree is found before the answer is that of nesting too deeply. -/
inductive RunsOut : Parser → Prop
  | now {p : Parser} {n : Nat} {pos : Position} (h : p.expression.1 = .error (.tooDeep n pos)) :
      RunsOut p
  | later {p : Parser} {err : SyntaxError} (h : p.expression.1 = .error err)
      (h' : RunsOut p.expression.2) : RunsOut p

/-- A request finds an expression, or the levels are too few for the tokens in front of the parser,
or the parser goes on where the tokens say; it has then entered, apart from one, no more levels than
it has taken tokens. -/
theorem expression_cases (hp : p.cursor.ahead.Proper) :
    (∃ e, p.expression.1 = .ok e) ∨
      (∃ pos, p.expression.1 = .error (.tooDeep p.limit pos) ∧
        p.limit - p.depth ≤ p.cursor.left) ∨
      ∃ err, p.expression.1 = .error err ∧ p.cursor.Skips p.expression.2.cursor ∧
        p.expression.2.depth + p.expression.2.cursor.left ≤ p.depth + p.cursor.left + 1 := by
  rw [expression_eq]
  cases hrun : Parse.expression (p.limit - p.depth) p.cursor with
  | ok e c => exact .inl ⟨e, rfl⟩
  | error f c =>
    obtain ⟨s, n⟩ := f
    have hentered := Parse.entered_add_left_le hp hrun
    by_cases hs : s = .tooDeep
    · subst hs
      have hfills := Parse.fills_expression _ _ hrun
      exact .inr (.inl ⟨_, rfl, by omega⟩)
    · refine .inr (.inr ⟨_, rfl, Cursor.skips_of_error hp hrun hs, ?_⟩)
      dsimp only
      omega

/-- A parser that is exhausted stays so. -/
theorem Exhausted.expression (h : p.Exhausted) : p.expression.2.Exhausted :=
  fun requests r => h (.expression :: requests) r

/-- A parser that finds no expression and is exhausted then is exhausted. -/
theorem exhausted_of_expression (h : ∀ e, p.expression.1 ≠ .ok e)
    (h' : p.expression.2.Exhausted) : p.Exhausted := by
  intro requests r e
  cases requests with
  | nil => exact fun he => h e (expression_eq_ok he)
  | cons r' requests =>
    rw [after, answer_snd]
    exact h' requests r e

/-- Without a level no tree is found. -/
theorem exhausted_of_full (h : p.limit ≤ p.depth) : p.Exhausted := by
  intro requests r e he
  rw [answer_of_full h] at he
  simp at he

/-- Behind the error of nesting too deeply no tree is found. -/
theorem exhausted_of_tooDeep {n : Nat} {pos : Position}
    (h : p.expression.1 = .error (.tooDeep n pos)) : p.Exhausted := by
  obtain ⟨-, -, hfull⟩ := full_of_tooDeep h
  refine exhausted_of_expression (fun e => by simp [h]) (exhausted_of_full ?_)
  rw [limit_expression]
  exact Nat.le_of_lt hfull

/-- Where the levels run out no tree is found. -/
theorem RunsOut.exhausted (h : p.RunsOut) : p.Exhausted := by
  induction h with
  | now h => exact exhausted_of_tooDeep h
  | later h _ ih => exact exhausted_of_expression (fun e => by simp [h]) ih

/-- Where an expression is found the tokens promise it. -/
theorem recovers_of_expression (hp : p.cursor.ahead.Proper) (h : p.expression.1 = .ok e) :
    p.cursor.Recovers := by
  rw [expression_eq] at h
  split at h
  · rename_i e' c hrun
    obtain ⟨ts, hts, hder, hnot, -⟩ := (Parse.expression_eq_ok_iff hp).1 hrun
    exact .found hts hder hnot
  · simp at h

/-- However often the parser is asked, a tree is only found where the tokens promise one. -/
theorem recovers_of_answer {requests : List Request} {r : Request} (hp : p.cursor.ahead.Proper)
    (h : ((p.after requests).answer r).1 = .ok e) : p.cursor.Recovers := by
  induction requests generalizing p with
  | nil => exact recovers_of_expression hp (expression_eq_ok h)
  | cons r' requests ih =>
    rcases expression_cases hp with ⟨e', he'⟩ | ⟨pos, hdeep, -⟩ | ⟨err, herr, hskips, -⟩
    · exact recovers_of_expression hp he'
    · exact absurd h (exhausted_of_tooDeep hdeep (r' :: requests) r e)
    · rw [after, answer_snd] at h
      exact .later hskips (ih (hskips.proper hp) h)

end Parser

/-- What the tokens promise is found, unless there are too few levels for what is in front of the
parser. -/
theorem Cursor.Recovers.not_exhausted_or_runsOut {c : Cursor} (h : c.Recovers) {p : Parser}
    (hp : p.cursor = c) (hproper : c.ahead.Proper) :
    ¬ p.Exhausted ∨ p.limit - p.depth ≤ 2 * c.left ∧ p.RunsOut := by
  -- the induction is on the attempts that fail; two levels for each token are enough for all
  induction h generalizing p with
  | found hts hder hnot =>
    subst hp
    rcases Parser.expression_cases hproper with ⟨e, he⟩ | ⟨pos, hdeep, hleft⟩ | ⟨_, -, hskips, -⟩
    · exact .inl fun hexhausted => hexhausted [] .expression e he
    · exact .inr ⟨by omega, .now hdeep⟩
    · exact absurd hder (hskips.not_derives hts hnot)
  | @later c c' hskips h ih =>
    subst hp
    rcases Parser.expression_cases hproper with ⟨e, he⟩ | ⟨pos, hdeep, hleft⟩ | ⟨err, herr, hs, hd⟩
    · exact .inl fun hexhausted => hexhausted [] .expression e he
    · exact .inr ⟨by omega, .now hdeep⟩
    obtain rfl := hs.unique hskips
    rcases hs.eq_or_left_lt hproper with hstays | hlt
    · -- an attempt that takes nothing changes nothing
      have hagain := ih hstays.symm (hs.proper hproper)
      rwa [hstays] at hagain
    · rcases ih rfl (hs.proper hproper) with hfound | ⟨hlevels, hout⟩
      · exact .inl fun hexhausted => hfound hexhausted.expression
      · rw [Parser.limit_expression] at hlevels
        exact .inr ⟨by omega, .later herr hout⟩

namespace Parser

variable {p : Parser}

/-- No tree is found any more if the tokens promise none, or if there are too few levels for what is
in front of the parser and they run out. -/
theorem exhausted_iff (hp : p.cursor.ahead.Proper) : p.Exhausted ↔
    ¬ p.cursor.Recovers ∨ p.limit - p.depth ≤ 2 * p.cursor.left ∧ p.RunsOut := by
  constructor
  · intro hexhausted
    by_cases hrecovers : p.cursor.Recovers
    · exact .inr ((hrecovers.not_exhausted_or_runsOut rfl hp).resolve_left (not_not.2 hexhausted))
    · exact .inl hrecovers
  · rintro (hno | ⟨-, hout⟩)
    · intro requests r e he
      exact hno (recovers_of_answer hp he)
    · exact hout.exhausted

end Parser

/-! ## Behind a token that cannot be read -/

namespace Cursor

/-- A stray character stays in front of the cursor. -/
theorem stays_stray (e : LexicalError) : Stays fun c => c.ahead = ⟨[], .error e⟩ where
  ok hc ha := by
    obtain ⟨t, ht, -⟩ := Parse.advance_eq_ok_iff.1 ha
    simp [hc, TokenStream.head] at ht
  error hc ha := by
    obtain ⟨f, -, -, rfl⟩ := Parse.advance_eq_error_iff.1 ha
    rw [hc]
    rfl

/-- The end of the source stays in front of the cursor, and the token under it is no expression. -/
theorem stays_closed {t : Located Token} (ht : t.item = .endOfSource) :
    Stays fun c => c.ahead = ⟨[], .ok t⟩ ∧ ∀ e, ¬ Derives .primary [c.current.item] e where
  ok hc ha := by
    obtain ⟨u, hu, rfl⟩ := Parse.advance_eq_ok_iff.1 ha
    rw [hc.1] at hu ⊢
    obtain rfl : t = u := Except.ok.inj hu
    exact ⟨rfl, fun e he => he.ne_endOfSource t.item (by simp) ht⟩
  error hc ha := by
    obtain ⟨f, hf, -⟩ := Parse.advance_eq_error_iff.1 ha
    simp [hc.1, TokenStream.head] at hf

end Cursor

namespace Parser

variable {p : Parser}

/-- At a stray character no tree is found any more. -/
theorem exhausted_of_stray {f : LexicalError} (h : p.cursor.ahead = ⟨[], .error f⟩) :
    p.Exhausted := by
  intro requests r e he
  have hstays : (p.after requests).cursor.ahead = ⟨[], .error f⟩ :=
    after_induct (motive := fun q => q.cursor.ahead = ⟨[], .error f⟩)
      (fun _ hq => (Cursor.stays_stray f).expression hq) h requests
  obtain ⟨-, ts, hts, hder⟩ := expression_spans (expression_eq_ok he)
  -- an expression takes a token at least, but no token can be read
  obtain ⟨t, ts, rfl⟩ := List.exists_cons_of_ne_nil hder.ne_nil
  obtain ⟨-, -, c, ha, -⟩ := Cursor.reads_cons_iff.1 hts
  obtain ⟨u, hu, -⟩ := Parse.advance_eq_ok_iff.1 ha
  simp [hstays, TokenStream.head] at hu

/-- In front of the end, the token under the cursor is the only expression that can be found. -/
theorem primary_of_closed {t : Located Token} {e : Expr} (ht : t.item = .endOfSource)
    (h : p.cursor.ahead = ⟨[], .ok t⟩) (he : p.expression.1 = .ok e) :
    Derives .primary [p.cursor.current.item] e := by
  obtain ⟨-, ts, hts, hder⟩ := expression_spans he
  obtain ⟨u, ts, rfl⟩ := List.exists_cons_of_ne_nil hder.ne_nil
  obtain ⟨rfl, -, c, ha, hrest⟩ := Cursor.reads_cons_iff.1 hts
  obtain ⟨v, hv, rfl⟩ := Parse.advance_eq_ok_iff.1 ha
  rw [h] at hv
  obtain rfl : t = v := Except.ok.inj hv
  cases ts with
  | nil => exact hder.primary_of_singleton
  | cons w ts =>
    obtain ⟨rfl, hne, -⟩ := Cursor.reads_cons_iff.1 hrest
    exact absurd ht hne

/-- In front of the end, a token that is an expression is found if a level is left. -/
theorem expression_of_closed {t : Located Token} {e : Expr} (ht : t.item = .endOfSource)
    (h : p.cursor.ahead = ⟨[], .ok t⟩) (hlevel : p.depth < p.limit)
    (he : Derives .primary [p.cursor.current.item] e) : p.expression.1 = .ok e := by
  have hproper : p.cursor.ahead.Proper := by
    rw [h]
    refine ⟨by simp, fun u hu => ?_⟩
    obtain rfl : t = u := Except.ok.inj hu
    exact ht
  have ha : Parse.advance p.cursor = .ok () ⟨t, ⟨[], .ok t⟩⟩ :=
    Parse.advance_eq_ok_iff.2 ⟨t, by rw [h]; rfl, by rw [h]; rfl⟩
  have hreads := Cursor.reads_of_advance (he.ne_endOfSource _ (by simp)) ha
  have hends : Tier.disjunction.EndsAt t.item := by
    rw [ht]
    exact Tier.endsAt_endOfSource _
  have hder : Derives .disjunction [p.cursor.current.item] e :=
    .ofConjunction (.ofContainment (.ofEquality (.ofOrdering (.ofFiltered (.ofAccess
      (.ofPrimary he))))))
  have hcost : e.cost < p.limit - p.depth := by
    rw [he.cost_of_singleton]
    omega
  rw [expression_eq, Parse.expression_of_derives hder hproper hreads hends hcost]

/-- In front of the end no tree is found any more if no level is left, or if the token under the
cursor is no literal and no name. -/
theorem exhausted_iff_of_closed {t : Located Token} (ht : t.item = .endOfSource)
    (h : p.cursor.ahead = ⟨[], .ok t⟩) :
    p.Exhausted ↔ p.limit ≤ p.depth ∨ ∀ e, ¬ Derives .primary [p.cursor.current.item] e := by
  constructor
  · intro hexhausted
    by_cases hlevel : p.limit ≤ p.depth
    · exact .inl hlevel
    · refine .inr fun e he => ?_
      exact hexhausted [] .expression e (expression_of_closed ht h (not_le.1 hlevel) he)
  · rintro (hlevel | hno)
    · exact exhausted_of_full hlevel
    · intro requests r e he
      have hstays := after_induct (motive := fun q => q.cursor.ahead = ⟨[], .ok t⟩ ∧
        ∀ e, ¬ Derives .primary [q.cursor.current.item] e)
        (fun _ hq => (Cursor.stays_closed ht).expression hq) ⟨h, hno⟩ requests
      exact hstays.2 e (primary_of_closed ht hstays.1 (expression_eq_ok he))

/-- Where the fault has been met, no tree is found any more: the text does not get past a stray
character; behind an open string it has ended, so that there is only the token before the string;
and behind a number that is too large the tokens promise no tree, or there are too few levels. -/
def ShutBy (p : Parser) : LexicalFault → Prop
  | .strayCharacter _ => True
  | .openString => p.limit ≤ p.depth ∨ ∀ e, ¬ Derives .primary [p.cursor.current.item] e
  | .numberTooLarge _ => ¬ p.cursor.Recovers ∨ p.limit - p.depth ≤ 2 * p.cursor.left ∧ p.RunsOut

/-- However a parser is asked: as long as no answer is the error for a token that cannot be read,
all that it has moved past are tokens; and once such an error has been answered, no later answer is
a tree if and only if the fault has shut the parser. -/
theorem exhausted_iff_of_lexical {limit : Nat} {scanner : Scanner}
    (h : ofScanner limit scanner = .ok p) (requests : List Request) :
    ((∀ f, .error (.lexical f) ∉ p.answers requests) →
      ∃ ts, p.cursor.Reads ts (p.after requests).cursor) ∧
    ∀ r f p', (p.after requests).answer r = (.error (.lexical f), p') →
      (p'.Exhausted ↔ p'.ShutBy f.fault) := by
  refine ⟨reads_after, fun r f p' hr => ?_⟩
  have hscans : (p.after requests).cursor.Scans :=
    after_induct (motive := fun q => q.cursor.Scans) (fun _ hq => Cursor.stays_scans.expression hq)
      (scans_of_ofScanner h) requests
  obtain ⟨ts, c, hts, hhead, hcursor⟩ :=
    cursor_of_lexical (expression_eq_lexical (congrArg Prod.fst hr))
  obtain rfl : _ = p' := ((answer_snd _ r).symm.trans (congrArg Prod.snd hr))
  obtain ⟨place, text, htext⟩ := Cursor.stays_scans.reads hts hscans
  have hahead := congrArg Cursor.ahead hcursor
  rw [htext] at hhead hahead
  rcases tail_of_head_eq_error hhead with ⟨ch, hf, htail⟩ | ⟨hf, t, ht, htail⟩ | ⟨numeral, hf⟩
  · rw [hf]
    exact ⟨fun _ => trivial, fun _ => exhausted_of_stray (hahead.trans htail)⟩
  · rw [hf]
    exact exhausted_iff_of_closed ht (hahead.trans htail)
  · rw [hf]
    refine exhausted_iff ?_
    rw [hahead]
    exact (proper_streamFrom place text).tail

/-- A stray character shuts a parser, also one that has found a tree before. -/
theorem exhausted_iff_of_lexical_stray : ∃ p p' : Parser,
    ofScanner 4 (Scanner.ofSource "a b #") = .ok p ∧
      (∃ ts, p.cursor.Reads ts (p.after [.expression]).cursor) ∧
      (p.after [.expression]).answer .last =
        (.error (.lexical ⟨.strayCharacter '#', ⟨4, 1, 5⟩⟩), p') ∧ p'.Exhausted := by
  have hstream : (Scanner.ofSource "a b #").stream = ⟨[.ok ⟨.identifier "a", ⟨0, 1, 1⟩⟩,
      .ok ⟨.identifier "b", ⟨2, 1, 3⟩⟩], .error ⟨.strayCharacter '#', ⟨4, 1, 5⟩⟩⟩ := by cbv
  have hp := ofScanner_of_stream 4 hstream
  obtain ⟨hreads, hlexical⟩ := exhausted_iff_of_lexical hp [.expression]
  refine ⟨_, _, hp, hreads ?_, rfl, (hlexical .last _ _ rfl).2 trivial⟩
  intro f hf
  have hok : (.error (.lexical f) : Except SyntaxError Expr) = .ok (.var "a") :=
    List.mem_singleton.1 hf
  simp at hok

/-- A parser that has met a number that is too large goes on behind it: the number is part of the
text of the tree that is found then. -/
theorem not_exhausted_of_lexical :
    ¬ ∀ (limit : Nat) (source : String) (p p' : Parser) (requests : List Request) (r : Request)
      (f : LexicalError), ofScanner limit (Scanner.ofSource source) = .ok p →
      (p.after requests).answer r = (.error (.lexical f), p') → p'.Exhausted := by
  intro h
  have hstream : (Scanner.ofSource "a 99999999999999999999 == b").stream =
      ⟨[.ok ⟨.identifier "a", ⟨0, 1, 1⟩⟩,
      .error ⟨.numberTooLarge "99999999999999999999", ⟨2, 1, 3⟩⟩,
      .ok ⟨.compare .equal, ⟨23, 1, 24⟩⟩, .ok ⟨.identifier "b", ⟨26, 1, 27⟩⟩],
      .ok ⟨.endOfSource, ⟨27, 1, 28⟩⟩⟩ := by cbv
  exact h 256 _ _ _ [] .expression ⟨.numberTooLarge "99999999999999999999", ⟨2, 1, 3⟩⟩
    (ofScanner_of_stream 256 hstream) rfl [] .expression
    (.compare .equal (.var "a") (.var "b")) rfl

end Parser

end TemplateExpr
