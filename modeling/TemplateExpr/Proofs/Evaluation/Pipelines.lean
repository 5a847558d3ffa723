/-
# Pipelines

A source with names behind it, each behind a bar, sends its value through the filters of these
names, from left to right: the first filter gets the value, and each of the others what the one
before it gave.  The first name without a filter ends the run, and so does the first filter that
refuses its input.  What such a run comes to is a relation here.

Main statements:
* `Derives.piped`, `cost_piped`: the tree of a pipeline, and what it costs;
* `eval_piped`: a pipeline is evaluated filter by filter;
* `pipes_iff`: every run of filters comes to one end;
* `evaluate_pipeline`: the value and the calls of a source that is a pipeline.
-/
import TemplateExpr.Eval.Source
import TemplateExpr.Proofs.Grammar.Chains
import TemplateExpr.Proofs.Source.Joining
import TemplateExpr.Proofs.Source.Printing

namespace TemplateExpr

/-! ## Trees -/

namespace Expr

/-- The filters of the names, without arguments, behind an expression. -/
def piped (e : Expr) (names : List String) : Expr :=
  names.foldl (fun input name => .filter input name []) e

/-- Every filter costs one more level. -/
theorem cost_piped {e : Expr} (h : e.links .filtered = 0) (names : List String) :
    (e.piped names).cost = max e.cost names.length := by
  have hchain := costsByChains_cost.filtered e (names.map fun name => (name, [])) h
  rw [List.foldl_map, List.length_map] at hchain
  exact hchain

end Expr

/-- The tokens of names, each behind a bar. -/
def pipedTokens (names : List String) : List Token :=
  names.flatMap fun name => [.pipe, .identifier name]

theorem Derives.piped {ts : List Token} {e : Expr} (h : Derives .filtered ts e)
    (names : List String) : Derives .filtered (ts ++ pipedTokens names) (e.piped names) := by
  induction names generalizing ts e with
  | nil => simpa [pipedTokens, Expr.piped] using h
  | cons name names ih =>
    have hpiped := ih (h.filter name)
    rwa [List.append_assoc] at hpiped

/-! ## Sources -/

theorem separates_pipe : Separates " | ".toList [.pipe] := by
  have hpipe : Lexeme ['|'] .pipe := .punctuation (by decide)
  exact separates_lexeme hpipe

/-- A text and names, with a bar between any two of them, have the tokens of the text and then those
of the names. -/
theorem tokenizes_pipeline {source : String} {names : List String} {ts : List Token}
    (h : Tokenizes source.toList ts) (hnames : ∀ name ∈ names, Token.IsName name) :
    Tokenizes (" | ".intercalate (source :: names)).toList (ts ++ pipedTokens names) := by
  have hparts : ∀ part ∈ (source, ts) :: names.map fun name => (name, [Token.identifier name]),
      Tokenizes part.1.toList part.2 := by
    rw [List.forall_mem_cons, List.forall_mem_map]
    exact ⟨h, fun name hname => tokenizes_of_lexeme (.name (hnames name hname))⟩
  have hall := separates_pipe.intercalate hparts
  rw [List.map_cons, List.map_map, List.flatMap_map] at hall
  have hfst : Prod.fst ∘ (fun name => (name, [Token.identifier name])) = @id String := rfl
  rwa [hfst, List.map_id] at hall

/-- A source without filters and operators, but those in groups and indices, is still parsed with
at most 255 names behind it. -/
theorem parse_pipeline {source : String} {e : Expr} {names : List String}
    (hparse : parse source = .ok e) (htier : e.tier ∈ [Tier.primary, .access])
    (hnames : ∀ name ∈ names, Token.IsName name) (hlength : names.length ≤ 255) :
    parse (" | ".intercalate (source :: names)) = .ok (e.piped names) := by
  obtain ⟨ts, htokens, hder, hcost⟩ := parseWithin_eq_ok_iff_tokenizes.1 hparse
  have hrank : e.tier.rank ≤ Tier.access.rank := by
    rcases List.mem_pair.1 htier with h | h
    · rw [h]
      decide
    · rw [h]
  have haccess : Derives .access ts e := hder.of_tier.of_rank_le hrank
  have hlinks : e.links .filtered = 0 := haccess.links_eq_zero (by decide)
  refine parseWithin_eq_ok_iff_tokenizes.2 ⟨_, tokenizes_pipeline htokens hnames, ?_, ?_⟩
  · exact ((Derives.ofAccess haccess).piped names).of_rank_le (by decide)
  · have hlimit : defaultLimit = 256 := rfl
    rw [Expr.cost_piped hlinks]
    omega

/-! ## Runs of filters -/

namespace Context

variable {c : Context} {v : Value} {names : List String} {r : Eval Value}

/-- A value goes through the filters of the names, one after the other, and this is what it comes to
and what is called. -/
inductive Pipes (c : Context) : Value → List String → Eval Value → Prop
  | done (v : Value) : Pipes c v [] ⟨.ok v, []⟩
  | unknown {v : Value} {name : String} {names : List String}
      (hfilter : c.config.filter? name = none) :
      Pipes c v (name :: names) ⟨.error (.unknownFilter name), []⟩
  | refused {v : Value} {name : String} {names : List String} {filter : Filter} {why : Refusal}
      (hfilter : c.config.filter? name = some filter) (hcall : filter v [] = .error why) :
      Pipes c v (name :: names) ⟨.error (.refused name why), [⟨name, v, []⟩]⟩
  | next {v w : Value} {name : String} {names : List String} {filter : Filter} {r : Eval Value}
      (hfilter : c.config.filter? name = some filter) (hcall : filter v [] = .ok w)
      (hrest : Pipes c w names r) :
      Pipes c v (name :: names) ⟨r.outcome, ⟨name, v, []⟩ :: r.calls⟩

/-- What the filter of the name makes of a value. -/
def applyFilter (c : Context) (v : Value) (name : String) : Eval Value :=
  match c.config.filter? name with
  | none => .fail (.unknownFilter name)
  | some filter => callFilter name filter v []

theorem eval_filter_nil (e : Expr) (name : String) :
    c.eval (.filter e name []) = c.eval e >>= fun v => c.applyFilter v name := by
  rw [eval, eval, evalAs]
  rfl

/-- A pipeline is evaluated filter by filter. -/
theorem eval_piped (e : Expr) (names : List String) :
    c.eval (e.piped names) = c.eval e >>= fun v => names.foldlM c.applyFilter v := by
  induction names generalizing e with
  | nil => exact (bind_pure (c.eval e)).symm
  | cons name names ih =>
    show c.eval ((Expr.filter e name []).piped names) = _
    rw [ih, eval_filter_nil, bind_assoc]
    rfl

theorem pipes_foldlM (c : Context) (v : Value) (names : List String) :
    c.Pipes v names (names.foldlM c.applyFilter v) := by
  induction names generalizing v with
  | nil => exact .done v
  | cons name names ih =>
    rw [List.foldlM_cons, applyFilter]
    cases hfilter : c.config.filter? name with
    | none => exact .unknown hfilter
    | some filter =>
      dsimp only
      rw [callFilter]
      cases hcall : filter v [] with
      | error why => exact .refused hfilter hcall
      | ok w => exact .next hfilter hcall (ih w)

/-- Every run of filters comes to one end. -/
theorem pipes_iff : c.Pipes v names r ↔ names.foldlM c.applyFilter v = r := by
  constructor
  · intro h
    induction h with
    | done v => rfl
    | unknown hfilter =>
      rw [List.foldlM_cons, applyFilter, hfilter]
      rfl
    | refused hfilter hcall =>
      rw [List.foldlM_cons, applyFilter, hfilter]
      dsimp only
      rw [callFilter, hcall]
      rfl
    | next hfilter hcall _ ih =>
      rw [List.foldlM_cons, applyFilter, hfilter]
      dsimp only
      rw [callFilter, hcall, ← ih]
      rfl
  · rintro rfl
    exact pipes_foldlM c v names

end Context

/-! ## Evaluation -/

/-- A source that is parsed to a literal, a name, a group or a chain of accesses is still parsed with
at most 255 names of filters behind it, each behind a bar.  In every context the value of the whole
is that of the source, sent through the filters.  The calls are those of the source and then those
on the way through the filters; an error of the source stays what it is. -/
theorem evaluate_pipeline {source : String} {e : Expr} {names : List String}
    (hparse : parse source = .ok e) (htier : e.tier ∈ [Tier.primary, .access])
    (hnames : ∀ name ∈ names, Token.IsName name) (hlength : names.length ≤ 255) :
    parse (" | ".intercalate (source :: names)) = .ok (e.piped names) ∧
      ∀ c : Context,
        (∀ err, (c.eval e).outcome = .error err →
          evaluate (" | ".intercalate (source :: names)) c =
            ⟨.error (.eval err), (c.eval e).calls⟩) ∧
        ∀ v, (c.eval e).outcome = .ok v →
          ∃ r, (∀ r', c.Pipes v names r' ↔ r' = r) ∧
            evaluate (" | ".intercalate (source :: names)) c =
              ⟨r.outcome.mapError .eval, (c.eval e).calls ++ r.calls⟩ := by
  have hpipeline := parse_pipeline hparse htier hnames hlength
  refine ⟨hpipeline, fun c => ?_⟩
  rw [evaluate, hpipeline]
  dsimp only
  rw [Context.eval_piped]
  generalize c.eval e = m
  obtain ⟨outcome, calls⟩ := m
  constructor
  · rintro err ⟨⟩
    rfl
  · rintro v ⟨⟩
    exact ⟨names.foldlM c.applyFilter v, fun r' => Context.pipes_iff.trans eq_comm, rfl⟩

/-- The first filter is called with nil and the second one, which refuses it, with one; the third
name is not reached. -/
theorem evaluate_pipeline_refused :
    parse "a.b" = .ok (.field (.var "a") "b") ∧
      (∀ name ∈ ["f", "g", "h"], Token.IsName name) ∧
      evaluate "a.b | f | g | h" (.empty ((Config.new.register "f" fun _ _ =>
          .ok (.integer 1)).register "g" fun _ _ => .error ⟨"no"⟩)) =
        ⟨.error (.eval (.refused "g" ⟨"no"⟩)), [⟨"f", .nil, []⟩, ⟨"g", .integer 1, []⟩]⟩ := by
  have hparse : parse "a.b" = .ok (.field (.var "a") "b") := by
    have hstream : streamOf "a.b" = ⟨[.ok ⟨.identifier "a", ⟨0, 1, 1⟩⟩, .ok ⟨.dot, ⟨1, 1, 2⟩⟩,
        .ok ⟨.identifier "b", ⟨2, 1, 3⟩⟩], .ok ⟨.endOfSource, ⟨3, 1, 4⟩⟩⟩ := by cbv
    rw [parse, parseWithin_of_head (congrArg TokenStream.head hstream), hstream]
    rfl
  have hnames : ∀ name ∈ ["f", "g", "h"], Token.IsName name := by
    simp only [List.forall_mem_cons, List.not_mem_nil, false_imp_iff, implies_true, and_true]
    refine ⟨⟨⟨'f', [], rfl, by decide, by simp⟩, ?_⟩, ⟨⟨'g', [], rfl, by decide, by simp⟩, ?_⟩,
      ⟨⟨'h', [], rfl, by decide, by simp⟩, ?_⟩⟩ <;> simp [Token.keywords]
  refine ⟨hparse, hnames, ?_⟩
  have hevaluate := (evaluate_pipeline hparse (by decide) hnames (by decide)).2
    (.empty ((Config.new.register "f" fun _ _ => .ok (.integer 1)).register "g"
      fun _ _ => .error ⟨"no"⟩))
  obtain ⟨r, hr, hvalue⟩ := hevaluate.2 .nil rfl
  have hruns : Context.Pipes (.empty ((Config.new.register "f" fun _ _ =>
      .ok (.integer 1)).register "g" fun _ _ => .error ⟨"no"⟩)) .nil ["f", "g", "h"]
        ⟨.error (.refused "g" ⟨"no"⟩), [⟨"f", .nil, []⟩, ⟨"g", .integer 1, []⟩]⟩ :=
    .next rfl rfl (.refused rfl rfl)
  obtain rfl := (hr _).1 hruns
  exact hvalue

end TemplateExpr
