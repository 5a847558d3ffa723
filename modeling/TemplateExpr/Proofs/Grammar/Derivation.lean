/-
# The grammar of expressions

Which sequences of tokens are expressions, and of which form.  The tiers of the grammar go from
primary expressions to disjunctions.  On the tiers between, a chain leans to the left; a chain of
`and` or of `or` is one node, and a single operand is no chain.

Main statements:
* `namesAttribute_iff`: identifiers and keywords are the names of attributes;
* `Derives.ne_endOfSource`: the end of the source is no part of an expression;
* `Derives.tier?_of_mem_head?`: no expression goes on with the first token of another one;
* `Derives.primary_of_singleton`: which tokens are expressions;
* `Derives.conjunction_of_ne_or`, `Derives.containment_of_ne_and`: what is no chain of a connective;
* `Viable.of_append`: what begins an expression has beginnings only at its front.
-/
import TemplateExpr.Expr.Basic
import TemplateExpr.Token.Basic

namespace TemplateExpr

/-! ## Tiers -/

/-- The kinds of expressions, each with all those before it. -/
inductive Tier where
  | primary
  | access
  | filtered
  | ordering
  | equality
  | containment
  | conjunction
  | disjunction
deriving DecidableEq, Inhabited

/-- The place of a tier, from the tightest to the loosest. -/
def Tier.rank : Tier → Nat
  | .primary => 0
  | .access => 1
  | .filtered => 2
  | .ordering => 3
  | .equality => 4
  | .containment => 5
  | .conjunction => 6
  | .disjunction => 7

/-- The tier of a comparison. -/
def Comparison.tier (op : Comparison) : Tier := if op.asksEquality then .equality else .ordering

/-- Four comparisons are of the tier of orders. -/
theorem Comparison.tier_eq_ordering_iff {op : Comparison} :
    op.tier = .ordering ↔ op ∈ [Comparison.less, .greater, .lessEqual, .greaterEqual] := by
  cases op <;> simp [tier, asksEquality]

/-- Two comparisons are of the tier of equality. -/
theorem Comparison.tier_eq_equality_iff {op : Comparison} :
    op.tier = .equality ↔ op ∈ [Comparison.equal, .notEqual] := by
  cases op <;> simp [tier, asksEquality]

/-- The tier whose expressions go on with the token. -/
def Token.tier? : Token → Option Tier
  | .dot => some .access
  | .openBracket => some .access
  | .pipe => some .filtered
  | .compare op => some op.tier
  | .contains => some .containment
  | .logical .and => some .conjunction
  | .logical .or => some .disjunction
  | _ => none

section

variable {t : Token}

/-- Conjunctions go on with `and` only. -/
theorem Token.tier?_eq_conjunction_iff : t.tier? = some .conjunction ↔ t = .logical .and := by
  fun_cases tier? t <;> grind [Comparison.tier]

/-- Disjunctions go on with `or` only. -/
theorem Token.tier?_eq_disjunction_iff : t.tier? = some .disjunction ↔ t = .logical .or := by
  fun_cases tier? t <;> grind [Comparison.tier]

end

/-- No expression of the tier goes on with the token. -/
def Tier.EndsAt (T : Tier) (t : Token) : Prop := ∀ K ∈ t.tier?, T.rank < K.rank

/-- Every tier ends at a token with which none goes on. -/
theorem Tier.endsAt_of_tier?_eq_none {T : Tier} {t : Token} (h : t.tier? = none) : T.EndsAt t := by
  intro K hK
  rw [h] at hK
  simp at hK

/-- Every tier ends at the end of the source. -/
theorem Tier.endsAt_endOfSource (T : Tier) : T.EndsAt .endOfSource :=
  endsAt_of_tier?_eq_none rfl

/-! ## Names of attributes -/

/-- The token is the name of an attribute: an identifier or a keyword. -/
inductive NamesAttribute : Token → String → Prop
  | identifier (name : String) : NamesAttribute (.identifier name) name
  | keyword {word : String} {t : Token} (h : (word, t) ∈ Token.keywords) : NamesAttribute t word

/-- The names of attributes are the words. -/
theorem namesAttribute_iff {t : Token} {name : String} :
    NamesAttribute t name ↔ t.word? = some name := by
  constructor
  · rintro (_ | h)
    · rfl
    · exact Token.word?_of_mem_keywords h
  · intro h
    have hmem : (∃ n, t = .identifier n) ∨ (name, t) ∈ Token.keywords := by
      cases t with
      | identifier n => exact .inl ⟨n, rfl⟩
      | boolean b =>
        cases b <;>
        · obtain rfl : _ = name := Option.some.inj h
          exact .inr (by decide)
      | logical op =>
        cases op <;>
        · obtain rfl : _ = name := Option.some.inj h
          exact .inr (by decide)
      | contains | nil =>
        obtain rfl : _ = name := Option.some.inj h
        exact .inr (by decide)
      | _ => simp [Token.word?] at h
    rcases hmem with ⟨n, rfl⟩ | hmem
    · obtain rfl : n = name := Option.some.inj h
      exact .identifier n
    · exact .keyword hmem

/-! ## Derivations -/

/-- The tokens are an expression of the tier. -/
inductive Derives : Tier → List Token → Expr → Prop
  | integer (n : Int64) : Derives .primary [.integer n] (.literal (.integer n))
  | float (x : Binary64) : Derives .primary [.float x] (.literal (.float x))
  | string (s : String) : Derives .primary [.string s] (.literal (.string s))
  | boolean (b : Bool) : Derives .primary [.boolean b] (.literal (.boolean b))
  | nil : Derives .primary [.nil] (.literal .nil)
  | var (name : String) : Derives .primary [.identifier name] (.var name)
  | group {ts : List Token} {e : Expr} (h : Derives .disjunction ts e) :
      Derives .primary (.openParen :: (ts ++ [.closeParen])) (.group e)
  | ofPrimary {ts : List Token} {e : Expr} (h : Derives .primary ts e) : Derives .access ts e
  | field {ts : List Token} {e : Expr} {t : Token} {name : String} (h : Derives .access ts e)
      (hname : NamesAttribute t name) : Derives .access (ts ++ [.dot, t]) (.field e name)
  | index {ts us : List Token} {e place : Expr} (h : Derives .access ts e)
      (hplace : Derives .disjunction us place) :
      Derives .access (ts ++ .openBracket :: (us ++ [.closeBracket])) (.index e place)
  | ofAccess {ts : List Token} {e : Expr} (h : Derives .access ts e) : Derives .filtered ts e
  | filter {ts : List Token} {e : Expr} (h : Derives .filtered ts e) (name : String) :
      Derives .filtered (ts ++ [.pipe, .identifier name]) (.filter e name [])
  | ofFiltered {ts : List Token} {e : Expr} (h : Derives .filtered ts e) : Derives .ordering ts e
  | order {ts us : List Token} {l r : Expr} {op : Comparison} (h : Derives .ordering ts l)
      (hop : op ∈ [.less, .greater, .lessEqual, .greaterEqual]) (hr : Derives .filtered us r) :
      Derives .ordering (ts ++ .compare op :: us) (.compare op l r)
  | ofOrdering {ts : List Token} {e : Expr} (h : Derives .ordering ts e) : Derives .equality ts e
  | equal {ts us : List Token} {l r : Expr} {op : Comparison} (h : Derives .equality ts l)
      (hop : op ∈ [.equal, .notEqual]) (hr : Derives .ordering us r) :
      Derives .equality (ts ++ .compare op :: us) (.compare op l r)
  | ofEquality {ts : List Token} {e : Expr} (h : Derives .equality ts e) :
      Derives .containment ts e
  | contains {ts us : List Token} {l r : Expr} (h : Derives .containment ts l)
      (hr : Derives .equality us r) :
      Derives .containment (ts ++ .contains :: us) (.contains l r)
  | ofContainment {ts : List Token} {e : Expr} (h : Derives .containment ts e) :
      Derives .conjunction ts e
  /-- A first operand and at least one more, each behind an `and`. -/
  | and {ts : List Token} {e : Expr} (h : Derives .containment ts e)
      (more : List (List Token × Expr)) (hne : more ≠ [])
      (hmore : ∀ p ∈ more, Derives .containment p.1 p.2) :
      Derives .conjunction (ts ++ more.flatMap fun p => .logical .and :: p.1)
        (.logical .and (e :: more.map fun p => p.2))
  | ofConjunction {ts : List Token} {e : Expr} (h : Derives .conjunction ts e) :
      Derives .disjunction ts e
  /-- A first operand and at least one more, each behind an `or`. -/
  | or {ts : List Token} {e : Expr} (h : Derives .conjunction ts e)
      (more : List (List Token × Expr)) (hne : more ≠ [])
      (hmore : ∀ p ∈ more, Derives .conjunction p.1 p.2) :
      Derives .disjunction (ts ++ more.flatMap fun p => .logical .or :: p.1)
        (.logical .or (e :: more.map fun p => p.2))

namespace Derives

variable {T : Tier} {ts : List Token} {e : Expr}

/-- The end of the source is no part of an expression. -/
theorem ne_endOfSource (h : Derives T ts e) : ∀ t ∈ ts, t ≠ .endOfSource := by
  induction h with
  | integer | float | string | boolean | nil | var => simp
  | ofPrimary _ ih | ofAccess _ ih | ofFiltered _ ih | ofOrdering _ ih | ofEquality _ ih
    | ofContainment _ ih | ofConjunction _ ih => exact ih
  | group _ ih => simpa [or_imp, forall_and] using ih
  | field _ hname ih =>
    have hname' := namesAttribute_iff.1 hname
    simp only [List.mem_append, List.mem_cons, List.not_mem_nil, or_false, or_imp, forall_and,
      forall_eq]
    refine ⟨ih, by simp, ?_⟩
    rintro rfl
    simp [Token.word?] at hname'
  | index _ _ ih ihp => simpa [or_imp, forall_and] using ⟨ih, ihp⟩
  | filter _ _ ih => simpa [or_imp, forall_and] using ih
  | order _ _ _ ih ihr | equal _ _ _ ih ihr | contains _ _ ih ihr =>
    simpa [or_imp, forall_and] using ⟨ih, ihr⟩
  | and _ more _ _ ih ihmore | or _ more _ _ ih ihmore =>
    intro t ht
    rcases List.mem_append.1 ht with ht | ht
    · exact ih t ht
    · obtain ⟨p, hp, htp⟩ := List.mem_flatMap.1 ht
      rcases List.mem_cons.1 htp with rfl | htp
      · simp
      · exact ihmore p hp t htp

/-- An expression has a token. -/
theorem ne_nil (h : Derives T ts e) : ts ≠ [] := by
  induction h with
  | integer | float | string | boolean | nil | var | group => simp
  | ofPrimary _ ih | ofAccess _ ih | ofFiltered _ ih | ofOrdering _ ih | ofEquality _ ih
    | ofContainment _ ih | ofConjunction _ ih => exact ih
  | field | index | filter | order | equal | contains => simp
  | and _ _ _ _ ih | or _ _ _ _ ih => simp [ih]

/-- No expression goes on with the first token of an expression. -/
theorem tier?_of_mem_head? (h : Derives T ts e) : ∀ t ∈ ts.head?, t.tier? = none := by
  induction h with
  | integer | float | string | boolean | nil | var | group =>
    rintro t ⟨⟩
    rfl
  | ofPrimary _ ih | ofAccess _ ih | ofFiltered _ ih | ofOrdering _ ih | ofEquality _ ih
    | ofContainment _ ih | ofConjunction _ ih => exact ih
  -- all others begin with a part of theirs
  | field h _ ih | index h _ ih | filter h _ ih | order h _ _ ih | equal h _ _ ih
    | contains h _ ih | and h _ _ _ ih | or h _ _ _ ih =>
    obtain ⟨u, us, rfl⟩ := List.exists_cons_of_ne_nil h.ne_nil
    exact ih

/-- A token that is an expression is a literal or a name. -/
theorem primary_of_singleton {t : Token} (h : Derives T [t] e) :
    Derives .primary [t] e := by
  generalize hts : [t] = ts at h
  induction h with
  | integer n => exact .integer n
  | float x => exact .float x
  | string s => exact .string s
  | boolean b => exact .boolean b
  | nil => exact .nil
  | var name => exact .var name
  | ofPrimary _ ih | ofAccess _ ih | ofFiltered _ ih | ofOrdering _ ih | ofEquality _ ih
    | ofContainment _ ih | ofConjunction _ ih => exact ih hts
  | group => simp at hts
  -- all others are longer
  | field h | index h | filter h | order h | equal h | contains h =>
    have hpos := List.length_pos_iff.2 h.ne_nil
    have hlength := congrArg List.length hts
    simp only [List.length_append, List.length_cons, List.length_nil] at hlength
    omega
  | and h more hne | or h more hne =>
    obtain ⟨p, more, rfl⟩ := List.exists_cons_of_ne_nil hne
    have hpos := List.length_pos_iff.2 h.ne_nil
    have hlength := congrArg List.length hts
    simp only [List.length_append, List.length_cons, List.length_nil, List.flatMap_cons] at hlength
    omega

/-- What is no chain of `or` is an expression of the tier before. -/
theorem conjunction_of_ne_or (h : Derives .disjunction ts e) (hne : ∀ es, e ≠ .logical .or es) :
    Derives .conjunction ts e := by
  cases h with
  | ofConjunction h => exact h
  | or => exact absurd rfl (hne _)

/-- What is no chain of `and` is an expression of the tier before. -/
theorem containment_of_ne_and (h : Derives .conjunction ts e) (hne : ∀ es, e ≠ .logical .and es) :
    Derives .containment ts e := by
  cases h with
  | ofContainment h => exact h
  | and => exact absurd rfl (hne _)

end Derives

/-! ## Beginnings of expressions -/

/-- The tokens are the beginning of an expression of the tier. -/
def Viable (T : Tier) (ts : List Token) : Prop := ∃ us e, Derives T (ts ++ us) e

section

variable {T K : Tier} {ts ws us : List Token} {e : Expr} {t : Token}

/-- The tokens at the front of an expression begin one. -/
theorem Derives.viable (h : Derives T ws e) (us : List Token) (hws : ws = ts ++ us) : Viable T ts :=
  ⟨us, e, hws ▸ h⟩

/-- Tokens at the front of a beginning are a beginning themselves. -/
theorem Viable.of_append (h : Viable T (ts ++ us)) : Viable T ts := by
  obtain ⟨vs, e, he⟩ := h
  exact he.viable (us ++ vs) (List.append_assoc _ _ _)

/-- What begins an expression of a tier begins one of every tier with these expressions. -/
theorem Viable.mono (hlift : ∀ {ts e}, Derives T ts e → Derives K ts e) (h : Viable T ts) :
    Viable K ts := by
  obtain ⟨us, e, he⟩ := h
  exact ⟨us, e, hlift he⟩

/-- On every tier there is an expression. -/
theorem derives_nil (T : Tier) : Derives T [.nil] (.literal .nil) := by
  cases T <;> repeat constructor

/-- Behind the tokens no expression of the tier goes on with the given one, although it is one with
which such expressions can go on. -/
def Tier.EndsBehind (T : Tier) (ts : List Token) (t : Token) : Prop :=
  ∀ K ∈ t.tier?, K.rank ≤ T.rank → ¬ Viable T (ts ++ [t])

/-- Where a tier ends it ends behind all tokens. -/
theorem Tier.EndsAt.endsBehind (h : T.EndsAt t) (ts : List Token) : T.EndsBehind ts t :=
  fun K hK hle => absurd (h K hK) (Nat.not_lt_of_le hle)

end

end TemplateExpr
