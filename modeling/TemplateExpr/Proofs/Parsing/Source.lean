/-
# Parsing a source

A source is an expression if its tokens are one of the grammar, and a limit is large enough for it
if it is greater than the cost.  So the parser finds the tree of the grammar and no other, whatever
the limit, and a limit beyond twice the number of tokens is never in the way.

Main statements:
* `parseWithin_eq_ok_iff`: which sources are parsed, to which tree, within which limits;
* `parseWithin_exact`: soundness, completeness and uniqueness.
-/
import Mathlib
import TemplateExpr.Expr.Session
import TemplateExpr.Proofs.Parsing.Completeness
import TemplateExpr.Proofs.Parsing.Soundness
import TemplateExpr.Proofs.Source.Stream

namespace TemplateExpr

variable {limit : Nat} {source : String} {t : Located Token} {e : Expr}

/-! ## Runs -/

theorem ofScanner_ofSource (limit : Nat) (source : String) :
    Parser.ofScanner limit (Scanner.ofSource source) =
      match (streamOf source).head with
      | .ok t => .ok ⟨⟨t, (streamOf source).tail⟩, limit, 0⟩
      | .error e => .error (.lexical e) := by
  obtain ⟨hhead, htail⟩ := Scanner.next_stream (Scanner.ofSource source)
  rw [Scanner.stream_ofSource] at hhead htail
  rw [Parser.ofScanner, ← hhead, ← htail]
  cases (Scanner.ofSource source).next with
  | mk answer rest => cases answer <;> rfl

/-- A source whose first token cannot be read is not parsed. -/
theorem parseWithin_of_head_eq_error {e : LexicalError} (h : (streamOf source).head = .error e) :
    parseWithin limit source = .error (.lexical e) := by
  rw [parseWithin, ofScanner_ofSource, h]
  rfl

/-- A source is parsed from its first token on with a budget of its limit, and it must end behind the
expression. -/
theorem parseWithin_of_head (h : (streamOf source).head = .ok t) :
    parseWithin limit source = match Parse.expression limit ⟨t, (streamOf source).tail⟩ with
      | .ok e c =>
        if c.current.item = .endOfSource then .ok e else .error (.missing .endOfSource c.current)
      | .error f c => .error (.ofStop limit c.current f.stop) := by
  rw [parseWithin, ofScanner_ofSource, h]
  show (Parser.lastExpression _).1 = _
  rw [Parser.lastExpression, Parser.expression_eq]
  dsimp only
  rw [Nat.sub_zero]
  cases Parse.expression limit ⟨t, (streamOf source).tail⟩ with
  | ok e c =>
    dsimp only
    split <;> rfl
  | error f c => rfl

theorem parseWithin_of_ok {c : Cursor} (h : (streamOf source).head = .ok t)
    (hrun : Parse.expression limit ⟨t, (streamOf source).tail⟩ = .ok e c) :
    parseWithin limit source =
      if c.current.item = .endOfSource then .ok e
      else .error (.missing .endOfSource c.current) := by
  rw [parseWithin_of_head h, hrun]

/-- Where no expression is parsed, the source is not. -/
theorem parseWithin_of_error {c : Cursor} {f : Failure} (h : (streamOf source).head = .ok t)
    (hrun : Parse.expression limit ⟨t, (streamOf source).tail⟩ = .error f c) :
    parseWithin limit source = .error (.ofStop limit c.current f.stop) := by
  rw [parseWithin_of_head h, hrun]

/-- A source that is parsed begins with a token, and an expression reaches from there to its
end. -/
theorem parseWithin_eq_ok (h : parseWithin limit source = .ok e) :
    ∃ t c, (streamOf source).head = .ok t ∧
      Parse.expression limit ⟨t, (streamOf source).tail⟩ = .ok e c ∧
      c.current.item = .endOfSource := by
  cases hhead : (streamOf source).head with
  | error err => simp [parseWithin_of_head_eq_error hhead] at h
  | ok t =>
    cases hrun : Parse.expression limit ⟨t, (streamOf source).tail⟩ with
    | error f c => simp [parseWithin_of_error hhead hrun] at h
    | ok e' c =>
      rw [parseWithin_of_ok hhead hrun] at h
      split at h
      · obtain rfl := Except.ok.inj h
        exact ⟨t, c, rfl, hrun, ‹_›⟩
      · simp at h

/-! ## The list of tokens -/

/-- Where all tokens of a source can be read, a cursor gets from the first one to the end. -/
theorem reads_of_tokensOf {ts : List (Located Token)} (h : tokensOf source = .ok ts) :
    ∃ t c, (streamOf source).head = .ok t ∧
      Cursor.Reads ⟨t, (streamOf source).tail⟩ (ts.map Located.item) c ∧
      c.current.item = .endOfSource := by
  have hproper := proper_streamOf source
  rw [tokensOf_eq_ok_iff] at h
  cases hhead : (streamOf source).head with
  | error err => simp [untilError_of_head_eq_error hhead] at h
  | ok t =>
    have hup := Cursor.upcoming_of_head hproper hhead
    rw [h] at hup
    obtain ⟨c, hc, hend⟩ := Cursor.exists_reads_upcoming hproper.tail (congrArg Prod.snd hup)
    rw [hup] at hc
    exact ⟨t, c, rfl, hc, hend⟩

/-- A cursor that has got from the first token of a source to the end has read all its tokens. -/
theorem tokensOf_of_reads {ts : List Token} {c : Cursor} (hhead : (streamOf source).head = .ok t)
    (hts : Cursor.Reads ⟨t, (streamOf source).tail⟩ ts c) (hend : c.current.item = .endOfSource) :
    ∃ ls, tokensOf source = .ok ls ∧ ls.map Located.item = ts := by
  have hproper := proper_streamOf source
  obtain ⟨ls, hls, hup⟩ := hts.upcoming hproper.tail
  rw [Cursor.upcoming_of_head hproper hhead, Cursor.upcoming_of_eq hend, List.append_nil] at hup
  exact ⟨ls, tokensOf_eq_ok_iff.2 hup, hls⟩

/-! ## Expressions -/

/-- A source is parsed within a limit if its tokens are an expression of the grammar the cost of
which is below the limit. -/
theorem parseWithin_eq_ok_iff : parseWithin limit source = .ok e ↔
    ∃ ts, tokensOf source = .ok ts ∧ Derives .disjunction (ts.map Located.item) e ∧
      e.cost < limit := by
  constructor
  · intro h
    obtain ⟨t, c, hhead, hrun, hend⟩ := parseWithin_eq_ok h
    obtain ⟨n, rfl, ts, hts, hder, hcost⟩ := Parse.spans_of_expression hrun
    obtain ⟨ls, hls, rfl⟩ := tokensOf_of_reads hhead hts hend
    exact ⟨ls, hls, hder, Nat.lt_succ_of_le hcost⟩
  · rintro ⟨ts, htokens, hder, hcost⟩
    -- the token behind the expression is the end, which goes on with no tier
    obtain ⟨t, c, hhead, hts, hend⟩ := reads_of_tokensOf htokens
    have hproper := proper_streamOf source
    have hrun : Parse.expression limit ⟨t, (streamOf source).tail⟩ = .ok e c := by
      refine Parse.expression_of_derives hder hproper.tail hts ?_ hcost
      rw [hend]
      exact Tier.endsAt_endOfSource _
    rw [parseWithin_of_ok hhead hrun, if_pos hend]

/-- The parser agrees with the grammar.  What it finds within any limit is derived from the tokens
of the source; what is derived from them it finds within every limit beyond twice their number; and
nothing else is derived from them. -/
theorem parseWithin_exact (source : String) :
    (∀ limit e, parseWithin limit source = .ok e →
      ∃ ts, tokensOf source = .ok ts ∧ Derives .disjunction (ts.map Located.item) e) ∧
    ∀ ts e, tokensOf source = .ok ts → Derives .disjunction (ts.map Located.item) e →
      (∀ limit, 2 * ts.length + 1 ≤ limit → parseWithin limit source = .ok e) ∧
      ∀ e', Derives .disjunction (ts.map Located.item) e' → e' = e := by
  constructor
  · intro limit e h
    obtain ⟨ts, hts, hder, -⟩ := parseWithin_eq_ok_iff.1 h
    exact ⟨ts, hts, hder⟩
  · intro ts e hts hder
    refine ⟨?_, fun e' hder' => hder'.unique hder⟩
    intro limit hlimit
    have hcost := hder.cost_le
    rw [List.length_map] at hcost
    exact parseWithin_eq_ok_iff.2 ⟨ts, hts, hder, by omega⟩

/-- Five tokens are parsed within eleven levels, and what is parsed is derived from five tokens. -/
theorem parseWithin_exact_attribute :
    parseWithin 11 "a or b.c" = .ok (.logical .or [.var "a", .field (.var "b") "c"]) ∧
      ∃ ts, tokensOf "a or b.c" = .ok ts ∧ Derives .disjunction (ts.map Located.item)
        (.logical .or [.var "a", .field (.var "b") "c"]) := by
  have htokens : tokensOf "a or b.c" = .ok [⟨.identifier "a", ⟨0, 1, 1⟩⟩,
      ⟨.logical .or, ⟨2, 1, 3⟩⟩, ⟨.identifier "b", ⟨5, 1, 6⟩⟩, ⟨.dot, ⟨6, 1, 7⟩⟩,
      ⟨.identifier "c", ⟨7, 1, 8⟩⟩] := by cbv
  have ha : Derives .conjunction [.identifier "a"] (.var "a") :=
    .ofContainment (.ofEquality (.ofOrdering (.ofFiltered (.ofAccess (.ofPrimary (.var "a"))))))
  have hb : Derives .conjunction [.identifier "b", .dot, .identifier "c"]
      (.field (.var "b") "c") :=
    .ofContainment (.ofEquality (.ofOrdering (.ofFiltered (.ofAccess
      (.field (.ofPrimary (.var "b")) (.identifier "c"))))))
  have hder := ha.or [([.identifier "b", .dot, .identifier "c"], .field (.var "b") "c")]
    (by simp) (by simpa using hb)
  have hrun := ((parseWithin_exact "a or b.c").2 _ _ htokens hder).1 11 (by decide)
  exact ⟨hrun, (parseWithin_exact "a or b.c").1 11 _ hrun⟩

end TemplateExpr
