/-
# The least limit

For every source that is an expression there is a least limit within which it is parsed: one more
than its cost.  Within every limit from there on the tree is the same, and within every lower one
the source is nested too deeply.  The cost is the only function that obeys the rules for chains, so
that nothing else has to be known of it.

Main statements:
* `parseWithin_eq_tooDeep`: below the least limit;
* `parseWithin_threshold`: all limits.
-/
import TemplateExpr.Proofs.Grammar.Chains
import TemplateExpr.Proofs.Parsing.Limits

namespace TemplateExpr

variable {limit limit₀ : Nat} {source : String} {e : Expr}

/-- A tree that is found within some limit is found within every limit above its cost. -/
theorem parseWithin_eq_ok_of_cost_lt (h : parseWithin limit₀ source = .ok e)
    (hlimit : e.cost < limit) : parseWithin limit source = .ok e := by
  obtain ⟨ts, hts, hder, -⟩ := parseWithin_eq_ok_iff.1 h
  exact parseWithin_eq_ok_iff.2 ⟨ts, hts, hder, hlimit⟩

/-- Within no other limit it is found, and the only error is that of nesting too deeply. -/
theorem parseWithin_eq_tooDeep (h : parseWithin limit₀ source = .ok e) (hlimit : limit ≤ e.cost) :
    ∃ p, parseWithin limit source = .error (.tooDeep limit p) := by
  obtain ⟨ts, hts, hder, hcost⟩ := parseWithin_eq_ok_iff.1 h
  rcases parseWithin_eq_or_tooDeep (show limit ≤ limit₀ by omega) source with hdeep | ⟨hsame, -⟩
  · exact hdeep
  · -- the same tree within both limits would cost less than either
    rw [h] at hsame
    obtain ⟨us, -, -, hlow⟩ := parseWithin_eq_ok_iff.1 hsame
    omega

/-- The rules for chains have exactly one solution; and a source that is parsed within some limit is
parsed to the same tree within all limits above the cost of the tree, and is nested too deeply for
all others. -/
theorem parseWithin_threshold :
    (∃! cost, Expr.CostsByChains cost) ∧
    ∀ cost, Expr.CostsByChains cost → ∀ limit₀ source e, parseWithin limit₀ source = .ok e →
      ∀ limit, (1 + cost e ≤ limit → parseWithin limit source = .ok e) ∧
        (limit < 1 + cost e → ∃ p, parseWithin limit source = .error (.tooDeep limit p)) := by
  constructor
  · exact ⟨Expr.cost, Expr.costsByChains_cost, fun _ => Expr.CostsByChains.eq_cost⟩
  · intro cost hcost limit₀ source e h limit
    obtain rfl := hcost.eq_cost
    constructor
    · intro hlimit
      exact parseWithin_eq_ok_of_cost_lt h (by omega)
    · intro hlimit
      exact parseWithin_eq_tooDeep h (by omega)

/-- The index is the first link and costs three levels with what it holds, and the right operand is
one level deep and costs two. -/
theorem parseWithin_threshold_index : Expr.CostsByChains Expr.cost ∧
    parseWithin 9 "a[b.c] | f < x.y.z" = .ok (.compare .less
      (.filter (.index (.var "a") (.field (.var "b") "c")) "f" [])
      (.field (.field (.var "x") "y") "z")) ∧
    parseWithin 4 "a[b.c] | f < x.y.z" = .ok (.compare .less
      (.filter (.index (.var "a") (.field (.var "b") "c")) "f" [])
      (.field (.field (.var "x") "y") "z")) ∧
    ∃ p, parseWithin 3 "a[b.c] | f < x.y.z" = .error (.tooDeep 3 p) := by
  have hstream : streamOf "a[b.c] | f < x.y.z" = ⟨[.ok ⟨.identifier "a", ⟨0, 1, 1⟩⟩,
      .ok ⟨.openBracket, ⟨1, 1, 2⟩⟩, .ok ⟨.identifier "b", ⟨2, 1, 3⟩⟩, .ok ⟨.dot, ⟨3, 1, 4⟩⟩,
      .ok ⟨.identifier "c", ⟨4, 1, 5⟩⟩, .ok ⟨.closeBracket, ⟨5, 1, 6⟩⟩, .ok ⟨.pipe, ⟨7, 1, 8⟩⟩,
      .ok ⟨.identifier "f", ⟨9, 1, 10⟩⟩, .ok ⟨.compare .less, ⟨11, 1, 12⟩⟩,
      .ok ⟨.identifier "x", ⟨13, 1, 14⟩⟩, .ok ⟨.dot, ⟨14, 1, 15⟩⟩,
      .ok ⟨.identifier "y", ⟨15, 1, 16⟩⟩, .ok ⟨.dot, ⟨16, 1, 17⟩⟩,
      .ok ⟨.identifier "z", ⟨17, 1, 18⟩⟩], .ok ⟨.endOfSource, ⟨18, 1, 19⟩⟩⟩ := by cbv
  have hnine : parseWithin 9 "a[b.c] | f < x.y.z" = .ok (.compare .less
      (.filter (.index (.var "a") (.field (.var "b") "c")) "f" [])
      (.field (.field (.var "x") "y") "z")) := by
    rw [parseWithin_of_head (congrArg TokenStream.head hstream), hstream]
    rfl
  have hlimits := parseWithin_threshold.2 Expr.cost Expr.costsByChains_cost 9 _ _ hnine
  exact ⟨Expr.costsByChains_cost, hnine, (hlimits 4).1 (by decide), (hlimits 3).2 (by decide)⟩

end TemplateExpr
