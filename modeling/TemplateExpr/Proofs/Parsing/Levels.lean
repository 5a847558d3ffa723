/-
# Levels over many requests

A parser that is asked again and again keeps count of the levels that it has entered.  A request
that finds an expression leaves all of its levels again; one that does not stays in some of them.
So every failure takes a level for good, and when none is left the parser stands still.

Main statements:
* `fills_expression`: to be too deep is to be one level beyond the budget;
* `depth_add_failures_le`: every failure takes a level at least;
* `answer_of_full`: without a level every answer is the same;
* `levels_of_requests`: the levels of a parser, however it is asked.
-/
import TemplateExpr.Proofs.Parsing.Composition
import TemplateExpr.Proofs.Parsing.Sessions

namespace TemplateExpr

/-! ## One expression -/

namespace Parse

/-- Where the parser gives up for being too deep, it is one level beyond the budget. -/
def Fills (b : Nat) (α : Type) (p : Parse α) (c : Cursor) : Prop :=
  ∀ ⦃n c'⦄, p c = .error ⟨.tooDeep, n⟩ c' → n = b + 1

/-- A parser that is not too deep fills any budget. -/
theorem fills_of_ne {b : Nat} {α : Type} {p : Parse α} {c : Cursor}
    (h : ∀ n c', p c ≠ .error ⟨.tooDeep, n⟩ c') : Fills b α p c :=
  fun _ _ hrun => absurd hrun (h _ _)

theorem composes_fills : Composes Fills where
  pure _ _ _ _ := fills_of_ne fun _ _ => pure_ne_error
  missing _ _ wanted c := fills_of_ne fun n c' => by simp [stop_run]
  advance _ _ _ := fills_of_ne fun n c' hrun => by
    obtain ⟨e, he⟩ := advance_eq_error hrun
    simp at he
  peek h n c' hrun := h ((peek_bind _ _).symm.trans hrun)
  ahead _ h n c' hrun := h hrun
  bind hp hq n c' hrun := by
    rcases bind_eq_error_iff.1 hrun with hrun | ⟨a, c₁, hpc, hrun⟩
    · exact hp hrun
    · exact hq hpc hrun
  enterTooDeep := by
    intro α c n c' hrun
    rw [enterTooDeep_run, EStateM.Result.error.injEq, Failure.mk.injEq] at hrun
    exact hrun.1.2.symm
  within hp n c' hrun := by
    obtain ⟨m, hinside, rfl⟩ := within_eq_error_iff.1 hrun
    rw [hp hinside]

/-- An expression is too deep one level beyond its budget. -/
theorem fills_expression (b : Nat) (c : Cursor) : Fills b Expr (expression b) c :=
  composes_fills.expression b c

end Parse

/-! ## One request -/

namespace Parser

variable {p : Parser} {limit n : Nat} {pos : Position}

/-- The error of nesting too deeply has the limit and the place of the token under the cursor, and
leaves the parser beyond the limit. -/
theorem full_of_tooDeep (h : p.expression.1 = .error (.tooDeep n pos)) :
    n = p.limit ∧ pos = p.expression.2.cursor.current.position ∧
      p.limit < p.expression.2.depth := by
  rw [expression_eq] at h ⊢
  split at h
  · simp at h
  · rename_i f c hrun
    obtain ⟨s, m⟩ := f
    have hstop : SyntaxError.ofStop p.limit c.current s = .tooDeep n pos := Except.error.inj h
    cases s with
    | lexical e => simp [SyntaxError.ofStop] at hstop
    | missing wanted => exact absurd hstop (SyntaxError.missing_ne_tooDeep wanted c.current n pos)
    | tooDeep =>
      obtain ⟨rfl, rfl⟩ := SyntaxError.tooDeep.inj hstop
      have hm := Parse.fills_expression _ _ hrun
      refine ⟨rfl, rfl, ?_⟩
      show p.limit < p.depth + m
      omega

/-- Without a level nothing is read. -/
theorem expression_of_full (h : p.limit ≤ p.depth) :
    p.expression = (.error (.tooDeep p.limit p.cursor.current.position),
      { p with depth := p.depth + 1 }) := by
  rw [expression_eq, Nat.sub_eq_zero_of_le h]
  rfl

theorem answer_eq_tooDeep_iff {r : Request} : (p.answer r).1 = .error (.tooDeep n pos) ↔
    p.expression.1 = .error (.tooDeep n pos) := by
  constructor
  · intro h
    rcases p.answer_cases r with hr | ⟨-, hr⟩
    · rwa [hr] at h
    · rw [hr] at h
      exact absurd (Except.error.inj h) (SyntaxError.missing_ne_tooDeep _ _ n pos)
  · exact answer_eq_error

/-! ## Many requests -/

/-- The number of requests that find no expression. -/
def failures (p : Parser) : List Request → Nat
  | [] => 0
  | _ :: requests =>
    match p.expression with
    | (.ok _, p') => p'.failures requests
    | (.error _, p') => p'.failures requests + 1

/-- Every failure takes a level at least. -/
theorem depth_add_failures_le (p : Parser) (requests : List Request) :
    p.depth + p.failures requests ≤ (p.after requests).depth := by
  induction requests generalizing p with
  | nil => exact Nat.le_refl p.depth
  | cons r requests ih =>
    have hrest := ih p.expression.2
    rw [after, answer_snd, failures]
    split
    · rename_i e p' hp
      rw [hp] at hrest ⊢
      have hdepth := expression_depth_of_ok hp
      dsimp only at hrest ⊢
      omega
    · rename_i err p' hp
      rw [hp] at hrest ⊢
      have hdepth := expression_depth_of_error hp
      dsimp only at hrest ⊢
      omega

/-- Without a level every answer is the same, and the parser stands still. -/
theorem answer_of_full (h : p.limit ≤ p.depth) (requests : List Request) (r : Request) :
    ((p.after requests).answer r).1 = .error (.tooDeep p.limit p.cursor.current.position) := by
  have hstays : (p.after requests).limit = p.limit ∧ p.limit ≤ (p.after requests).depth ∧
      (p.after requests).cursor = p.cursor := by
    refine after_induct (motive := fun q => q.limit = p.limit ∧ p.limit ≤ q.depth ∧
      q.cursor = p.cursor) ?_ ⟨rfl, h, rfl⟩ requests
    rintro q ⟨hlimit, hdepth, hcursor⟩
    rw [expression_of_full (hlimit ▸ hdepth)]
    exact ⟨hlimit, Nat.le_succ_of_le hdepth, hcursor⟩
  obtain ⟨hlimit, hdepth, hcursor⟩ := hstays
  rw [answer_eq_tooDeep_iff, expression_of_full (hlimit ▸ hdepth), hlimit, hcursor]

theorem limit_after (p : Parser) (requests : List Request) : (p.after requests).limit = p.limit :=
  after_induct (motive := fun q => q.limit = p.limit) (fun q hq => (limit_expression q).trans hq)
    rfl requests

theorem ofScanner_eq_ok {scanner : Scanner} (h : ofScanner limit scanner = .ok p) :
    p.limit = limit ∧ p.depth = 0 := by
  unfold ofScanner at h
  split at h
  · obtain rfl := Except.ok.inj h
    exact ⟨rfl, rfl⟩
  · simp at h

/-- However a parser is asked, and wherever it was put into the source: a request that finds an
expression leaves the level at which it began, also if the source does not end behind the
expression, and one that finds none goes deeper.  After as many failures as there are levels every
answer is that of nesting too deeply; and after the first such answer all are the same. -/
theorem levels_of_requests {scanner : Scanner} (h : ofScanner limit scanner = .ok p)
    (requests : List Request) (r : Request) :
    (∀ e, (p.after requests).expression.1 = .ok e →
      ((p.after requests).answer r).2.depth = (p.after requests).depth) ∧
    (∀ err, (p.after requests).expression.1 = .error err →
      (p.after requests).depth < ((p.after requests).answer r).2.depth) ∧
    (limit ≤ p.failures requests →
      ∃ pos, ((p.after requests).answer r).1 = .error (.tooDeep limit pos)) ∧
    ∀ n pos, ((p.after requests).answer r).1 = .error (.tooDeep n pos) →
      ∀ more r', ((((p.after requests).answer r).2.after more).answer r').1 =
        .error (.tooDeep n pos) := by
  obtain ⟨rfl, hzero⟩ := ofScanner_eq_ok h
  rw [answer_snd]
  refine ⟨fun e he => ?_, fun err herr => ?_, fun hfailures => ?_, fun n pos hdeep more r' => ?_⟩
  · exact expression_depth_of_ok (Prod.ext he rfl)
  · exact expression_depth_of_error (Prod.ext herr rfl)
  · have hdepth := p.depth_add_failures_le requests
    have hlimit := p.limit_after requests
    have hfull : (p.after requests).limit ≤ (p.after requests).depth := by omega
    rw [← hlimit]
    exact ⟨_, answer_of_full hfull [] r⟩
  · obtain ⟨rfl, rfl, hfull⟩ := full_of_tooDeep (answer_eq_tooDeep_iff.1 hdeep)
    have hlimit := limit_expression (p.after requests)
    rw [answer_of_full (hlimit ▸ Nat.le_of_lt hfull), hlimit]

/-- Behind its first token the source has an expression with something behind it, and then none:
with one level to enter, the parser stands still there. -/
theorem levels_of_requests_last : ∃ p : Parser,
    ofScanner 1 (Scanner.ofSource "x a ) b").next.2 = .ok p ∧
      p.expression.1 = .ok (.var "a") ∧
      (p.answer .last).1 = .error (.wrongToken .endOfSource .closeParen ⟨4, 1, 5⟩) ∧
      (p.answer .last).2.depth = p.depth ∧
      p.depth < (p.after [.last, .expression]).depth ∧
      p.failures [.last, .expression] = 1 ∧
      (∃ pos, ((p.after [.last, .expression]).answer .last).1 = .error (.tooDeep 1 pos)) ∧
      ∀ more r, (((p.after [.last, .expression, .last]).after more).answer r).1 =
        .error (.tooDeep 1 ⟨4, 1, 5⟩) := by
  have hstream : (Scanner.ofSource "x a ) b").next.2.stream = ⟨[.ok ⟨.identifier "a", ⟨2, 1, 3⟩⟩,
      .ok ⟨.closeParen, ⟨4, 1, 5⟩⟩, .ok ⟨.identifier "b", ⟨6, 1, 7⟩⟩],
      .ok ⟨.endOfSource, ⟨7, 1, 8⟩⟩⟩ := by cbv
  have hp := ofScanner_of_stream 1 hstream
  have hlast := (levels_of_requests hp [] .last).1 (.var "a") rfl
  have hdeeper := (levels_of_requests hp [.last] .expression).2.1
    (.wrongToken .expression .closeParen ⟨4, 1, 5⟩) rfl
  obtain ⟨-, -, hfull, hstill⟩ := levels_of_requests hp [.last, .expression] .last
  exact ⟨_, hp, rfl, rfl, hlast, hdeeper, rfl, hfull (Nat.le_refl 1), hstill 1 ⟨4, 1, 5⟩ rfl⟩

end Parser

end TemplateExpr
