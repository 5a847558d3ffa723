/-
# Paths into data

A source of names with a dot between any two of them is a path into the bindings: the first name is
bound, and each of the others names an attribute of the value before it.  What the attributes of a
value are is a relation here, and a path is followed one attribute after the other.

Main statements:
* `hasAttribute_iff`: every name is an attribute of every value, with one value;
* `leadsTo_iff`: every path leads to one value;
* `evaluate_path`: the value of a source that is a path.
-/
import TemplateExpr.Eval.Source
import TemplateExpr.Proofs.Evaluation.Congruence
import TemplateExpr.Proofs.Evaluation.Indexing
import TemplateExpr.Proofs.Json.RoundTrip
import TemplateExpr.Proofs.Parsing.Source
import TemplateExpr.Proofs.Source.Splitting

namespace TemplateExpr

/-! ## Attributes -/

namespace Value

/-- The value has an attribute of the name with the other value. -/
inductive HasAttribute : Value → String → Value → Prop
  | member {fields : Fields Value} {name : String} {v : Value}
      (h : fields.find? name = some v) : HasAttribute (.map fields) name v
  | noMember {fields : Fields Value} {name : String} (h : fields.find? name = none) :
      HasAttribute (.map fields) name .nil
  | first {base v : Value} {items : List Value} (h : HasItems base (v :: items)) :
      HasAttribute base "first" v
  | last {base v : Value} {items : List Value} (h : HasItems base (items ++ [v])) :
      HasAttribute base "last" v
  | noItem {base : Value} {name : String} (h : HasItems base [])
      (hname : name = "first" ∨ name = "last") : HasAttribute base name .nil
  | size {base : Value} {items : List Value} (h : HasItems base items) :
      HasAttribute base "size" (.ofNat items.length)
  | otherName {base : Value} {items : List Value} {name : String} (h : HasItems base items)
      (hname : name ∉ ["first", "last", "size"]) : HasAttribute base name .nil
  | otherKind {base : Value} {name : String} (h : base.kind ∉ [.map, .list, .string]) :
      HasAttribute base name .nil

variable {base v : Value} {items : List Value} {name : String}

/-- The value that is found is the attribute. -/
theorem hasAttribute_field (base : Value) (name : String) :
    HasAttribute base name (base.field name) := by
  have hsequence : ∀ {items}, HasItems base items →
      HasAttribute base name (itemAttribute items name) := by
    intro items h
    unfold itemAttribute
    split_ifs with hfirst hlast hsize
    · subst hfirst
      cases items with
      | nil => exact .noItem h (.inl rfl)
      | cons v items => exact .first h
    · subst hlast
      rcases List.eq_nil_or_concat' items with rfl | ⟨items, v, rfl⟩
      · exact .noItem h (.inr rfl)
      · rw [List.getLast?_concat]
        exact .last h
    · subst hsize
      exact .size h
    · exact .otherName h (by simp [hfirst, hlast, hsize])
  cases base with
  | map fields =>
    rw [field]
    cases hfind : fields.find? name with
    | none => exact .noMember hfind
    | some v => exact .member hfind
  | list items => exact hsequence (.list items)
  | string s => exact hsequence (.string s)
  | nil | boolean | integer | float => exact .otherKind (by simp [kind])

/-- Every name is an attribute of every value, and no name is one with two values. -/
theorem hasAttribute_iff : HasAttribute base name v ↔ base.field name = v := by
  constructor
  · intro h
    cases h with
    | member h | noMember h => rw [field, h]; rfl
    | first h | size h => rw [field_of_hasItems h]; rfl
    | last h =>
      rw [field_of_hasItems h, itemAttribute, if_neg (by decide), if_pos rfl, List.getLast?_concat]
      rfl
    | noItem h hname =>
      rw [field_of_hasItems h]
      rcases hname with rfl | rfl <;> rfl
    | otherName h hname =>
      simp only [List.mem_cons, List.not_mem_nil, or_false, not_or] at hname
      rw [field_of_hasItems h, itemAttribute, if_neg hname.1, if_neg hname.2.1, if_neg hname.2.2]
    | otherKind h =>
      cases base with
      | map | list | string => simp [kind] at h
      | nil | boolean | integer | float => rfl
  · rintro rfl
    exact hasAttribute_field base name

/-! ## Paths -/

/-- From the first value the names lead, one attribute after the other, to the second value. -/
inductive LeadsTo : Value → List String → Value → Prop
  | here (v : Value) : LeadsTo v [] v
  | step {base v w : Value} {name : String} {names : List String} (h : HasAttribute base name v)
      (hrest : LeadsTo v names w) : LeadsTo base (name :: names) w

/-- Every path leads to one value. -/
theorem leadsTo_iff {names : List String} {w : Value} :
    LeadsTo base names w ↔ names.foldl field base = w := by
  induction names generalizing base with
  | nil =>
    constructor
    · rintro ⟨⟩
      rfl
    · rintro rfl
      exact .here base
  | cons name names ih =>
    rw [List.foldl_cons, ← ih]
    constructor
    · rintro (_ | ⟨h, hrest⟩)
      exact hasAttribute_iff.1 h ▸ hrest
    · exact .step (hasAttribute_field base name)

end Value

/-! ## Sources that are paths -/

/-- The characters of the names behind the first one, each behind a dot. -/
def dotted (names : List String) : List Char := names.flatMap fun name => '.' :: name.toList

/-- The tokens of the names behind the first one, each behind a dot. -/
def dottedTokens (names : List String) : List Token :=
  names.flatMap fun name => [.dot, .ofWord name]

/-- Names with points between them are the first name and the others behind points. -/
theorem toList_intercalate_dot (k : String) (names : List String) :
    (".".intercalate (k :: names)).toList = k.toList ++ dotted names := by
  induction names generalizing k with
  | nil => simp [dotted]
  | cons name names ih =>
    rw [String.intercalate_cons_cons, String.toList_append, String.toList_append, ih]
    simp [dotted]

/-- No word goes on in front of a dot. -/
theorem endsBefore_dotted {word : String} (h : Token.IsWord word) (names : List String) :
    (Token.ofWord word).EndsBefore (dotted names) := by
  rw [Token.endsBefore_ofWord_iff h]
  intro c hc
  cases names with
  | nil => simp [dotted] at hc
  | cons name names =>
    obtain rfl : '.' = c := Option.some.inj hc
    decide

/-- A word in front of a path is split off as its token. -/
theorem splits_word {word : String} {names : List String} {ts : List (Located Token)}
    (p : Position) (hword : Token.IsWord word)
    (hrest : Splits (p.after word.toList) (dotted names) ts) :
    Splits p (word.toList ++ dotted names) (⟨.ofWord word, p⟩ :: ts) :=
  .cons_lexeme (Token.lexeme_of_isWord hword) (endsBefore_dotted hword names) hrest

/-- A path of words is split into its points and words. -/
theorem splits_dotted {names : List String} (h : ∀ name ∈ names, Token.IsWord name)
    (p : Position) :
    ∃ ts, Splits p (dotted names) ts ∧ ts.map Located.item = dottedTokens names := by
  induction names generalizing p with
  | nil => exact ⟨[], .nil (List.forall_mem_nil _), rfl⟩
  | cons name names ih =>
    obtain ⟨hname, hnames⟩ := List.forall_mem_cons.1 h
    obtain ⟨ts, hsplits, hitems⟩ := ih hnames ((p.after ['.']).after name.toList)
    refine ⟨⟨.dot, p⟩ :: ⟨.ofWord name, p.after ['.']⟩ :: ts, ?_, ?_⟩
    · have hdot : Lexeme ['.'] .dot := .punctuation (by decide)
      show Splits p (['.'] ++ (name.toList ++ dotted names)) _
      exact .cons_lexeme hdot trivial (splits_word _ hname hsplits)
    · rw [List.map_cons, List.map_cons, hitems]
      rfl

/-- The tokens of a source that is a path. -/
theorem tokensOf_path {k : String} {names : List String} (hk : Token.IsName k)
    (h : ∀ name ∈ names, Token.IsWord name) :
    ∃ ts, tokensOf (".".intercalate (k :: names)) = .ok ts ∧
      ts.map Located.item = [.identifier k] ++ dottedTokens names := by
  obtain ⟨ts, hsplits, hitems⟩ := splits_dotted h (Position.start.after k.toList)
  refine ⟨⟨.ofWord k, .start⟩ :: ts, ?_, ?_⟩
  · rw [tokensOf_eq_ok_iff_splits, toList_intercalate_dot]
    exact splits_word _ hk.1 hsplits
  · rw [List.map_cons, hitems, Token.ofWord_of_isName hk]
    rfl

/-! ## Trees that are paths -/

/-- The tree of a path from an expression. -/
def Expr.path (e : Expr) (names : List String) : Expr := names.foldl Expr.field e

/-- A path behind an expression is an expression. -/
theorem Derives.path {names : List String} {ts : List Token} {e : Expr}
    (he : Derives .access ts e) (h : ∀ name ∈ names, Token.IsWord name) :
    Derives .access (ts ++ dottedTokens names) (e.path names) := by
  induction names generalizing ts e with
  | nil => simpa [dottedTokens, Expr.path] using he
  | cons name names ih =>
    obtain ⟨hname, hnames⟩ := List.forall_mem_cons.1 h
    have hpath := ih (he.field (Token.namesAttribute_ofWord hname)) hnames
    rwa [List.append_assoc] at hpath

/-- Every name costs one more level. -/
theorem Expr.cost_path_le (e : Expr) (names : List String) :
    (e.path names).cost ≤ max e.cost (e.links .access + names.length) := by
  induction names generalizing e with
  | nil => exact le_max_left _ _
  | cons name names ih =>
    have hle := ih (e.field name)
    rw [Expr.cost, Expr.links, if_pos rfl] at hle
    rw [List.length_cons]
    show (path (e.field name) names).cost ≤ _
    omega

/-- A path is followed attribute by attribute. -/
theorem Context.evalAs_path {c : Context} {e : Expr} {v : Value}
    (h : ∀ role, c.evalAs role e = pure v) (names : List String) (role : Role) :
    c.evalAs role (e.path names) = pure (names.foldl Value.field v) := by
  induction names generalizing e v with
  | nil => exact h role
  | cons name names ih =>
    refine ih fun role => ?_
    rw [evalAs, h, pure_bind]

/-! ## Evaluation -/

/-- The value of a source of at most 256 names with dots between them, in the context that comes
from an object with a member of the first name: the value to which the other names lead from
there. -/
theorem evaluate_path (members : Fields Json) (config : Config) {k : String} {member : Json}
    {names : List String} (hmember : members.find? k = some member) (hk : Token.IsName k)
    (hnames : ∀ name ∈ names, Token.IsWord name) (hlength : (k :: names).length ≤ 256) :
    ∃ c, Context.ofJson (.object members) config = .ok c ∧
      ∃ v, evaluate (".".intercalate (k :: names)) c = ⟨.ok v, []⟩ ∧
        ∀ w, Value.LeadsTo (.ofJson member) names w ↔ w = v := by
  refine ⟨.ofMembers members config, Context.ofJson_object members config,
    names.foldl Value.field (.ofJson member), ?_, fun w => Value.leadsTo_iff.trans eq_comm⟩
  have hparse : parse (".".intercalate (k :: names)) = .ok ((Expr.var k).path names) := by
    obtain ⟨ts, htokens, hitems⟩ := tokensOf_path hk hnames
    refine parseWithin_eq_ok_iff.2 ⟨ts, htokens, ?_, ?_⟩
    · have hpath := (Derives.ofPrimary (.var k)).path hnames
      rw [hitems]
      exact .ofConjunction (.ofContainment (.ofEquality (.ofOrdering (.ofFiltered
        (.ofAccess hpath)))))
    · have hcost := (Expr.var k).cost_path_le names
      simp only [Expr.cost, Expr.links, List.length_cons] at hcost hlength
      show _ < 256
      omega
  have hget : (Context.ofMembers members config).get? k = some (.ofJson member) := by
    rw [Context.get?_ofMembers, hmember]
    rfl
  rw [evaluate, hparse]
  dsimp only
  rw [Context.eval, Context.evalAs_path (fun role => Context.evalAs_var_of_bound _ role hget)]
  rfl

/-- A keyword is a name behind a dot, and the path leads to the size of the last item. -/
theorem evaluate_path_keyword :
    (Fields.ofList [("a", Json.object (.ofList [("or", .array [.null, .string "xy"])]))]).find?
        "a" = some (.object (.ofList [("or", .array [.null, .string "xy"])])) ∧
      Token.IsName "a" ∧ (∀ name ∈ ["or", "last", "size"], Token.IsWord name) ∧
      ∃ c, Context.ofJson (.object (.ofList [("a",
          .object (.ofList [("or", .array [.null, .string "xy"])]))])) default = .ok c ∧
        evaluate "a.or.last.size" c = ⟨.ok (.integer 2), []⟩ := by
  have hmember : (Fields.ofList [("a", Json.object (.ofList [("or",
      .array [.null, .string "xy"])]))]).find? "a" =
        some (.object (.ofList [("or", .array [.null, .string "xy"])])) := by
    rw [Fields.find?_ofList]
    rfl
  have hk : Token.IsName "a" := by
    refine ⟨⟨'a', [], rfl, by decide, by simp⟩, ?_⟩
    simp [Token.keywords]
  have hnames : ∀ name ∈ ["or", "last", "size"], Token.IsWord name := by
    simp only [List.forall_mem_cons, List.not_mem_nil, false_imp_iff, implies_true, and_true]
    have hparts : ∀ cs, List.all cs Token.isWordPart = true → ∀ c ∈ cs, Token.isWordPart c = true :=
      fun cs => List.all_eq_true.1
    refine ⟨?_, ?_, ?_⟩ <;> exact ⟨_, _, rfl, by decide, hparts _ (by decide)⟩
  obtain ⟨c, hc, v, hv, hleads⟩ := evaluate_path _ default hmember hk hnames (by decide)
  refine ⟨hmember, hk, hnames, c, hc, ?_⟩
  have hmap : Value.HasAttribute (.ofJson (.object (.ofList [("or",
      .array [.null, .string "xy"])]))) "or" (.list [.nil, .string "xy"]) := by
    refine .member ?_
    rw [Value.ofJsonMembers_eq_map, Fields.find?_map, Fields.find?_ofList]
    rfl
  have hlast : Value.HasAttribute (.list [.nil, .string "xy"]) "last" (.string "xy") :=
    .last (.list ([.nil] ++ [.string "xy"]))
  have hsize : Value.HasAttribute (.string "xy") "size" (.integer 2) := .size (.string "xy")
  obtain rfl := (hleads _).1 (.step hmap (.step hlast (.step hsize (.here _))))
  exact hv

end TemplateExpr
