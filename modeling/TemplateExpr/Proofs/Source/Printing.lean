/-
# Printing expressions

An expression that the grammar can give back is written with the lexemes of its parts from left to
right and a blank between any two of them.  What is written so is parsed to the same expression: no
lexeme runs into the next one, and every operand stands on a tier on which its operator looks for
it.

Main statements:
* `exists_writes`: the lexemes are those of tokens from which the expression is derived;
* `printable_iff`: these are the expressions of the grammar whose names and literals have lexemes;
* `parseWithin_print`: an expression that is printed is parsed again.
-/
import TemplateExpr.Proofs.Grammar.Operators
import TemplateExpr.Proofs.Parsing.Source
import TemplateExpr.Proofs.Source.Splitting

namespace TemplateExpr

/-! ## Lexemes of expressions -/

/-- The quote around a text: a double one, unless the text contains it. -/
def quoteAround (s : String) : Char := if '\x22' ∈ s.toList then '\x27' else '\x22'

namespace Value

/-- The lexeme of a literal; values of other kinds have none. -/
def lexeme : Value → List Char
  | .nil => "nil".toList
  | .boolean b => (toString b).toList
  | .integer n => (toString n.toInt).toList
  | .string s => quoteAround s :: (s.toList ++ [quoteAround s])
  | .float _ => []
  | .list _ => []
  | .map _ => []

/-- The value is nil, a boolean, an integer or a text that one kind of quote can stand around. -/
def IsLiteral : Value → Prop
  | .nil => True
  | .boolean _ => True
  | .integer _ => True
  | .string s => ¬('\x22' ∈ s.toList ∧ '\x27' ∈ s.toList)
  | .float _ => False
  | .list _ => False
  | .map _ => False

end Value

/-- The tier of the chains of a connective. -/
def Connective.tier : Connective → Tier
  | .and => .conjunction
  | .or => .disjunction

namespace Expr

/-- The tightest tier that has expressions of this form. -/
def tier : Expr → Tier
  | .literal _ => .primary
  | .var _ => .primary
  | .group _ => .primary
  | .field _ _ => .access
  | .index _ _ => .access
  | .filter _ _ _ => .filtered
  | .compare op _ _ => op.tier
  | .contains _ _ => .containment
  | .logical op _ => op.tier

mutual

/-- The lexemes of an expression from left to right; arguments of filters have none. -/
def lexemes : Expr → List (List Char)
  | .literal value => [value.lexeme]
  | .var name => [name.toList]
  | .field object name => lexemes object ++ [['.'], name.toList]
  | .index object place => lexemes object ++ ['['] :: (lexemes place ++ [[']']])
  | .group inner => ['('] :: (lexemes inner ++ [[')']])
  | .compare op left right => lexemes left ++ op.symbol.toList :: lexemes right
  | .logical op operands => (lexemesBehind op operands).tail
  | .contains left right => lexemes left ++ "contains".toList :: lexemes right
  | .filter input name _ => lexemes input ++ [['|'], name.toList]

/-- The lexemes of operands, with the connective in front of each. -/
def lexemesBehind (op : Connective) : List Expr → List (List Char)
  | [] => []
  | e :: es => op.word.toList :: (lexemes e ++ lexemesBehind op es)

end

/-- The operands behind a connective are written one after the other. -/
theorem lexemesBehind_eq_flatMap (op : Connective) (es : List Expr) :
    lexemesBehind op es = es.flatMap fun e => op.word.toList :: e.lexemes := by
  induction es with
  | nil => rfl
  | cons e es ih => rw [lexemesBehind, ih, List.flatMap_cons, List.cons_append]

/-- The text of an expression. -/
def print (e : Expr) : String := String.ofList ([' '].intercalate e.lexemes)

/-- The expression is one that the grammar can give back: its names and literals have lexemes, its
operands are of the tiers that their operators look for, and its filters have no arguments. -/
inductive Printable : Expr → Prop
  | literal {v : Value} (h : v.IsLiteral) : Printable (.literal v)
  | var {name : String} (h : Token.IsName name) : Printable (.var name)
  | field {object : Expr} {name : String} (h : Printable object)
      (htier : object.tier.rank ≤ Tier.access.rank) (hname : Token.IsWord name) :
      Printable (.field object name)
  | index {object place : Expr} (h : Printable object)
      (htier : object.tier.rank ≤ Tier.access.rank) (hplace : Printable place) :
      Printable (.index object place)
  | group {inner : Expr} (h : Printable inner) : Printable (.group inner)
  | compare {op : Comparison} {l r : Expr} (hl : Printable l)
      (hltier : l.tier.rank ≤ op.tier.rank) (hr : Printable r)
      (hrtier : r.tier.rank < op.tier.rank) : Printable (.compare op l r)
  | contains {l r : Expr} (hl : Printable l) (hltier : l.tier.rank ≤ Tier.containment.rank)
      (hr : Printable r) (hrtier : r.tier.rank < Tier.containment.rank) :
      Printable (.contains l r)
  /-- The operands of a chain are no chains of the same connective, nor of a looser one. -/
  | logical {op : Connective} {es : List Expr} (hlength : 2 ≤ es.length)
      (h : ∀ e ∈ es, Printable e) (htier : ∀ e ∈ es, e.tier.rank < op.tier.rank) :
      Printable (.logical op es)
  | filter {input : Expr} {name : String} (h : Printable input)
      (htier : input.tier.rank ≤ Tier.filtered.rank) (hname : Token.IsName name) :
      Printable (.filter input name [])

/-- The literals and the names of the expression have lexemes. -/
inductive Spelled : Expr → Prop
  | literal {v : Value} (h : v.IsLiteral) : Spelled (.literal v)
  | var {name : String} (h : Token.IsName name) : Spelled (.var name)
  | field {object : Expr} {name : String} (h : Spelled object) (hname : Token.IsWord name) :
      Spelled (.field object name)
  | index {object place : Expr} (h : Spelled object) (hplace : Spelled place) :
      Spelled (.index object place)
  | group {inner : Expr} (h : Spelled inner) : Spelled (.group inner)
  | compare {op : Comparison} {l r : Expr} (hl : Spelled l) (hr : Spelled r) :
      Spelled (.compare op l r)
  | contains {l r : Expr} (hl : Spelled l) (hr : Spelled r) : Spelled (.contains l r)
  | logical {op : Connective} {es : List Expr} (h : ∀ e ∈ es, Spelled e) : Spelled (.logical op es)
  | filter {input : Expr} {name : String} {args : List Expr} (h : Spelled input)
      (hname : Token.IsName name) (hargs : ∀ e ∈ args, Spelled e) :
      Spelled (.filter input name args)

end Expr

/-! ## Tiers -/

/-- Two tiers at the same place are the same. -/
theorem Tier.rank_injective {T K : Tier} (h : T.rank = K.rank) : T = K := by
  cases T <;> cases K <;> simp [Tier.rank] at h ⊢

/-- Below a looser tier there is a next one. -/
theorem Tier.exists_rank_eq_succ {T K : Tier} (h : T.rank < K.rank) :
    ∃ J : Tier, J.rank = T.rank + 1 := by
  cases T with
  | primary => exact ⟨.access, rfl⟩
  | access => exact ⟨.filtered, rfl⟩
  | filtered => exact ⟨.ordering, rfl⟩
  | ordering => exact ⟨.equality, rfl⟩
  | equality => exact ⟨.containment, rfl⟩
  | containment => exact ⟨.conjunction, rfl⟩
  | conjunction => exact ⟨.disjunction, rfl⟩
  | disjunction => cases K <;> simp [Tier.rank] at h

/-- Disjunctions are the loosest tier. -/
theorem Tier.rank_le_disjunction (T : Tier) : T.rank ≤ Tier.disjunction.rank := by
  cases T <;> decide

namespace Derives

variable {T K : Tier} {ts : List Token} {e : Expr}

/-- An expression of a tier is one of the next tier. -/
theorem of_rank_eq_succ (h : Derives T ts e) (hrank : K.rank = T.rank + 1) : Derives K ts e := by
  cases T <;> cases K <;> simp [Tier.rank] at hrank
  · exact .ofPrimary h
  · exact .ofAccess h
  · exact .ofFiltered h
  · exact .ofOrdering h
  · exact .ofEquality h
  · exact .ofContainment h
  · exact .ofConjunction h

/-- An expression of a tier is one of every looser tier. -/
theorem of_rank_le (h : Derives T ts e) (hle : T.rank ≤ K.rank) : Derives K ts e := by
  obtain ⟨n, hn⟩ := Nat.exists_eq_add_of_le hle
  induction n generalizing T with
  | zero =>
    obtain rfl := Tier.rank_injective hn
    exact h
  | succ n ih =>
    obtain ⟨J, hJ⟩ := Tier.exists_rank_eq_succ (show T.rank < K.rank by omega)
    exact ih (h.of_rank_eq_succ hJ) (by omega) (by omega)

/-- An expression is derived on the tightest tier that has expressions of its form. -/
theorem of_tier (h : Derives T ts e) : Derives e.tier ts e := by
  induction h with
  | integer n => exact .integer n
  | float x => exact .float x
  | string s => exact .string s
  | boolean b => exact .boolean b
  | nil => exact .nil
  | var name => exact .var name
  | group h => exact .group h
  | ofPrimary _ ih | ofAccess _ ih | ofFiltered _ ih | ofOrdering _ ih | ofEquality _ ih
    | ofContainment _ ih | ofConjunction _ ih => exact ih
  | field h hname => exact .field h hname
  | index h hplace => exact .index h hplace
  | filter h name => exact .filter h name
  | order h hop hr =>
    rw [Expr.tier, Comparison.tier_eq_ordering_iff.2 hop]
    exact .order h hop hr
  | equal h hop hr =>
    rw [Expr.tier, Comparison.tier_eq_equality_iff.2 hop]
    exact .equal h hop hr
  | contains h hr => exact .contains h hr
  | and h more hne hmore => exact .and h more hne hmore
  | or h more hne hmore => exact .or h more hne hmore

end Derives

/-! ## Tokens of lexemes -/

/-- The digits of a natural number are digits. -/
theorem isDigits_toDigits (n : Nat) : IsDigits (Nat.toDigits 10 n) :=
  ⟨Nat.toDigits_ne_nil, fun _ hd => Nat.isDigit_of_mem_toDigits (by decide) (by decide) hd⟩

/-- The digits of a natural number stand for it. -/
theorem ofDigitChars_toDigits (n : Nat) : Nat.ofDigitChars 10 (Nat.toDigits 10 n) 0 = n :=
  Nat.ofDigitChars_toDigits (by decide) (by decide)

/-- The decimal digits of an integer, behind a sign if it is negative, are its lexeme. -/
theorem lexeme_integer (n : Int64) : Lexeme (toString n.toInt).toList (.integer n) := by
  cases hn : n.toInt with
  | ofNat m =>
    have hvalue : n.toInt = integerOf false (Nat.toDigits 10 m) := by
      rw [hn, integerOf, ofDigitChars_toDigits]
      rfl
    have htext : (toString (Int.ofNat m)).toList = signOf false ++ Nat.toDigits 10 m :=
      Nat.toList_repr
    rw [htext]
    exact .integer (isDigits_toDigits m) hvalue
  | negSucc m =>
    have hvalue : n.toInt = integerOf true (Nat.toDigits 10 (m + 1)) := by
      rw [hn, integerOf, ofDigitChars_toDigits]
      rfl
    have htext : (toString (Int.negSucc m)).toList = signOf true ++ Nat.toDigits 10 (m + 1) := by
      show ("-" ++ (m + 1).repr).toList = _
      rw [String.toList_append, Nat.toList_repr]
      rfl
    rw [htext]
    exact .integer (isDigits_toDigits (m + 1)) hvalue

/-- A value that can be written is a lexeme, and the token is a literal. -/
theorem lexeme_of_isLiteral {v : Value} (h : v.IsLiteral) :
    ∃ t, Lexeme v.lexeme t ∧ Derives .primary [t] (.literal v) := by
  cases v with
  | nil => exact ⟨.nil, .keyword (by decide), .nil⟩
  | boolean b =>
    refine ⟨.boolean b, ?_, .boolean b⟩
    cases b <;> exact .keyword (by decide)
  | integer n =>
    exact ⟨.integer n, lexeme_integer n, .integer n⟩
  | string s =>
    refine ⟨.string s, ?_, .string s⟩
    have hquote : quoteAround s = '\x22' ∨ quoteAround s = '\x27' := by
      unfold quoteAround
      split
      · exact .inr rfl
      · exact .inl rfl
    have hinside : quoteAround s ∉ s.toList := by
      unfold quoteAround
      split
      · exact fun hmem => h ⟨‹_›, hmem⟩
      · assumption
    have hlexeme := Lexeme.quoted hquote hinside
    rwa [String.ofList_toList] at hlexeme
  | float | list | map => exact h.elim

/-- The lexemes of the expression are those of tokens of which it is an expression of the tier. -/
structure Writes (T : Tier) (ws : List (List Char × Token)) (e : Expr) : Prop where
  lexemes : ws.map Prod.fst = e.lexemes
  each : ∀ w ∈ ws, Lexeme w.1 w.2
  derives : Derives T (ws.map Prod.snd) e

namespace Writes

variable {T K : Tier} {ws us : List (List Char × Token)} {e l r place : Expr} {name : String}

/-- What is written as an expression of a tier is written as one of every looser tier. -/
theorem of_rank_le (h : Writes T ws e) (hle : T.rank ≤ K.rank) : Writes K ws e :=
  ⟨h.lexemes, h.each, h.derives.of_rank_le hle⟩

/-- A literal is written as one lexeme. -/
theorem literal {v : Value} {t : Token} (h : Lexeme v.lexeme t)
    (hder : Derives .primary [t] (.literal v)) : Writes .primary [(v.lexeme, t)] (.literal v) where
  lexemes := rfl
  each := List.forall_mem_singleton.2 h
  derives := hder

/-- A variable is written as its name. -/
theorem var (h : Token.IsName name) :
    Writes .primary [(name.toList, .identifier name)] (.var name) where
  lexemes := rfl
  each := List.forall_mem_singleton.2 (.name h)
  derives := .var name

/-- An attribute is written behind its object and a point. -/
theorem field (h : Writes .access ws e) (hname : Token.IsWord name) :
    Writes .access (ws ++ [(['.'], .dot), (name.toList, Token.ofWord name)]) (.field e name) where
  lexemes := by rw [List.map_append, h.lexemes, Expr.lexemes]; rfl
  each := by
    have hdot : Lexeme ['.'] .dot := .punctuation (by decide)
    simp only [List.forall_mem_append, List.forall_mem_cons]
    exact ⟨h.each, hdot, Token.lexeme_of_isWord hname, by simp⟩
  derives := by
    rw [List.map_append]
    exact h.derives.field (Token.namesAttribute_ofWord hname)

/-- An index is written behind its object, between brackets. -/
theorem index (h : Writes .access ws e) (hplace : Writes .disjunction us place) :
    Writes .access (ws ++ (['['], .openBracket) :: (us ++ [([']'], .closeBracket)]))
      (.index e place) where
  lexemes := by simp only [List.map_append, List.map_cons, List.map_nil, h.lexemes,
    hplace.lexemes, Expr.lexemes]
  each := by
    have hopen : Lexeme ['['] .openBracket := .punctuation (by decide)
    have hclose : Lexeme [']'] .closeBracket := .punctuation (by decide)
    simp only [List.forall_mem_append, List.forall_mem_cons]
    exact ⟨h.each, hopen, hplace.each, hclose, by simp⟩
  derives := by
    simp only [List.map_append, List.map_cons, List.map_nil]
    exact h.derives.index hplace.derives

/-- A group is written between parentheses. -/
theorem group (h : Writes .disjunction ws e) :
    Writes .primary ((['('], .openParen) :: (ws ++ [([')'], .closeParen)])) (.group e) where
  lexemes := by simp only [List.map_append, List.map_cons, List.map_nil, h.lexemes, Expr.lexemes]
  each := by
    have hopen : Lexeme ['('] .openParen := .punctuation (by decide)
    have hclose : Lexeme [')'] .closeParen := .punctuation (by decide)
    simp only [List.forall_mem_append, List.forall_mem_cons]
    exact ⟨hopen, h.each, hclose, by simp⟩
  derives := by
    simp only [List.map_append, List.map_cons, List.map_nil]
    exact .group h.derives

/-- A filter is written behind its input and a pipe. -/
theorem filter (h : Writes .filtered ws e) (hname : Token.IsName name) :
    Writes .filtered (ws ++ [(['|'], .pipe), (name.toList, .identifier name)])
      (.filter e name []) where
  lexemes := by rw [List.map_append, h.lexemes, Expr.lexemes]; rfl
  each := by
    have hpipe : Lexeme ['|'] .pipe := .punctuation (by decide)
    simp only [List.forall_mem_append, List.forall_mem_cons]
    exact ⟨h.each, hpipe, .name hname, by simp⟩
  derives := by
    rw [List.map_append]
    exact h.derives.filter name

/-- A comparison is written with its operator between its sides. -/
theorem compare {op : Comparison} (hl : Writes op.tier ws l) (hr : Writes T us r)
    (hlt : T.rank < op.tier.rank) :
    Writes op.tier (ws ++ (op.symbol.toList, .compare op) :: us) (.compare op l r) where
  lexemes := by rw [List.map_append, List.map_cons, hl.lexemes, hr.lexemes, Expr.lexemes]
  each := by
    simp only [List.forall_mem_append, List.forall_mem_cons]
    exact ⟨hl.each, .comparison op, hr.each⟩
  derives := by
    have hleft := hl.derives
    rw [List.map_append]
    cases hop : op.asksEquality with
    | true =>
      have htier : op.tier = .equality := by rw [Comparison.tier, hop, if_pos rfl]
      rw [htier] at hleft hlt ⊢
      have hright := hr.derives.of_rank_le (show T.rank ≤ Tier.ordering.rank from by
        simp only [Tier.rank] at hlt ⊢; omega)
      exact hleft.equal (Comparison.tier_eq_equality_iff.1 htier) hright
    | false =>
      have htier : op.tier = .ordering := by rw [Comparison.tier, hop]; rfl
      rw [htier] at hleft hlt ⊢
      have hright := hr.derives.of_rank_le (show T.rank ≤ Tier.filtered.rank from by
        simp only [Tier.rank] at hlt ⊢; omega)
      exact hleft.order (Comparison.tier_eq_ordering_iff.1 htier) hright

/-- A containment is written with its operator between its sides. -/
theorem contains (hl : Writes .containment ws l) (hr : Writes .equality us r) :
    Writes .containment (ws ++ ("contains".toList, .contains) :: us) (.contains l r) where
  lexemes := by rw [List.map_append, List.map_cons, hl.lexemes, hr.lexemes, Expr.lexemes]
  each := by
    simp only [List.forall_mem_append, List.forall_mem_cons]
    exact ⟨hl.each, .keyword (by decide), hr.each⟩
  derives := by
    rw [List.map_append]
    exact hl.derives.contains hr.derives

/-- A chain of a connective: `f` gives the lexemes and tokens of its operands. -/
theorem logical {op : Connective} (hop : Parse.Connects op.tier T op) {es : List Expr}
    {f : Expr → List (List Char × Token)} (hne : es ≠ []) (h : Writes T (f e) e)
    (hes : ∀ e ∈ es, Writes T (f e) e) :
    Writes op.tier (f e ++ es.flatMap fun e => (op.word.toList, .logical op) :: f e)
      (.logical op (e :: es)) where
  lexemes := by
    have hmore : (es.flatMap fun e => (op.word.toList, Token.logical op) :: f e).map Prod.fst =
        es.flatMap fun e => op.word.toList :: e.lexemes := by
      rw [List.map_flatMap]
      exact List.flatMap_congr fun e' he' => by rw [List.map_cons, (hes e' he').lexemes]
    rw [List.map_append, h.lexemes, hmore, Expr.lexemes, Expr.lexemesBehind, List.tail_cons,
      Expr.lexemesBehind_eq_flatMap]
  each := by
    have hword : Lexeme op.word.toList (.logical op) := by
      cases op <;> exact .keyword (by decide)
    refine List.forall_mem_append.2 ⟨h.each, ?_⟩
    intro w hw
    obtain ⟨e', he', hwe'⟩ := List.mem_flatMap.1 hw
    rcases List.mem_cons.1 hwe' with rfl | hwe'
    · exact hword
    · exact (hes e' he').each w hwe'
  derives := by
    have hmore : ∀ p ∈ es.map fun e => ((f e).map Prod.snd, e), Derives T p.1 p.2 :=
      List.forall_mem_map.2 fun e' he' => (hes e' he').derives
    have hder := hop.derives h.derives (by simpa using hne) hmore
    simpa [List.map_flatMap, List.flatMap_map, Function.comp_def] using hder

end Writes

/-- A printable expression is written by its lexemes. -/
theorem Expr.Printable.exists_writes {e : Expr} (h : e.Printable) : ∃ ws, Writes e.tier ws e := by
  induction h with
  | literal hv =>
    obtain ⟨t, hlexeme, hder⟩ := lexeme_of_isLiteral hv
    exact ⟨_, .literal hlexeme hder⟩
  | var hname => exact ⟨_, .var hname⟩
  | field _ htier hname ih =>
    obtain ⟨ws, hws⟩ := ih
    exact ⟨_, (hws.of_rank_le htier).field hname⟩
  | index _ htier _ ih ihplace =>
    obtain ⟨ws, hws⟩ := ih
    obtain ⟨us, hus⟩ := ihplace
    exact ⟨_, (hws.of_rank_le htier).index (hus.of_rank_le (Tier.rank_le_disjunction _))⟩
  | group _ ih =>
    obtain ⟨ws, hws⟩ := ih
    exact ⟨_, (hws.of_rank_le (Tier.rank_le_disjunction _)).group⟩
  | compare _ hltier _ hrtier ihl ihr =>
    obtain ⟨ws, hws⟩ := ihl
    obtain ⟨us, hus⟩ := ihr
    exact ⟨_, (hws.of_rank_le hltier).compare hus hrtier⟩
  | contains _ hltier _ hrtier ihl ihr =>
    obtain ⟨ws, hws⟩ := ihl
    obtain ⟨us, hus⟩ := ihr
    exact ⟨_, (hws.of_rank_le hltier).contains (hus.of_rank_le (Nat.le_of_lt_succ hrtier))⟩
  | @logical op es hlength _ htier ih =>
    obtain ⟨T, hop⟩ : ∃ T, Parse.Connects op.tier T op := by
      cases op with
      | and => exact ⟨_, Parse.connects_and⟩
      | or => exact ⟨_, Parse.connects_or⟩
    have hall : ∀ e ∈ es, ∃ ws, Writes T ws e := by
      intro e he
      obtain ⟨ws, hws⟩ := ih e he
      have hlt := htier e he
      rw [hop.rank] at hlt
      exact ⟨ws, hws.of_rank_le (Nat.le_of_lt_succ hlt)⟩
    choose! f hf using hall
    cases es with
    | nil => simp at hlength
    | cons e es =>
      have hne : es ≠ [] := by
        rintro rfl
        simp at hlength
      exact ⟨_, .logical hop hne (hf e (by simp)) fun e' he' => hf e' (by simp [he'])⟩
  | filter _ htier hname ih =>
    obtain ⟨ws, hws⟩ := ih
    exact ⟨_, (hws.of_rank_le htier).filter hname⟩

/-! ## Printable expressions and the grammar -/

/-- An expression that can be printed is spelled. -/
theorem Expr.Printable.spelled {e : Expr} (h : e.Printable) : e.Spelled := by
  induction h with
  | literal hv => exact .literal hv
  | var hname => exact .var hname
  | field _ _ hname ih => exact .field ih hname
  | index _ _ _ ih ihplace => exact .index ih ihplace
  | group _ ih => exact .group ih
  | compare _ _ _ _ ihl ihr => exact .compare ihl ihr
  | contains _ _ _ _ ihl ihr => exact .contains ihl ihr
  | logical _ _ _ ih => exact .logical ih
  | filter _ _ hname ih => exact .filter ih hname (by simp)

/-- A comparison that can be spelled is printable if its operands are, and are of its tier on the
left and of a tighter one on the right. -/
theorem Expr.Spelled.printable_compare {op : Comparison} {l r : Expr} {T K : Tier}
    (hs : (Expr.compare op l r).Spelled) (htier : op.tier = T) (hlt : K.rank < T.rank)
    (hl : l.Spelled → l.Printable ∧ l.tier.rank ≤ T.rank)
    (hr : r.Spelled → r.Printable ∧ r.tier.rank ≤ K.rank) :
    (Expr.compare op l r).Printable ∧ (Expr.compare op l r).tier.rank ≤ T.rank := by
  cases hs with
  | compare hsl hsr =>
    subst htier
    obtain ⟨hpl, hlel⟩ := hl hsl
    obtain ⟨hpr, hler⟩ := hr hsr
    exact ⟨.compare hpl hlel hpr (Nat.lt_of_le_of_lt hler hlt), Nat.le_refl _⟩

/-- A chain that can be spelled is printable if its operands are, and are of tighter tiers. -/
theorem Expr.Spelled.printable_logical {op : Connective} {e : Expr} {T : Tier}
    {more : List (List Token × Expr)}
    (hs : (Expr.logical op (e :: more.map fun p => p.2)).Spelled) (hlt : T.rank < op.tier.rank)
    (hne : more ≠ []) (h : e.Spelled → e.Printable ∧ e.tier.rank ≤ T.rank)
    (hmore : ∀ p ∈ more, p.2.Spelled → p.2.Printable ∧ p.2.tier.rank ≤ T.rank) :
    (Expr.logical op (e :: more.map fun p => p.2)).Printable := by
  cases hs with
  | logical hs =>
    have hall : ∀ e' ∈ e :: more.map fun p => p.2, e'.Printable ∧ e'.tier.rank ≤ T.rank := by
      refine List.forall_mem_cons.2 ⟨h (hs e (by simp)), ?_⟩
      refine List.forall_mem_map.2 fun p hp => hmore p hp (hs p.2 ?_)
      exact List.mem_cons_of_mem e (List.mem_map_of_mem hp)
    have hlength : 0 < more.length := List.length_pos_iff.2 hne
    refine .logical ?_ (fun e' he' => (hall e' he').1) fun e' he' => ?_
    · simp only [List.length_cons, List.length_map]
      omega
    · exact Nat.lt_of_le_of_lt (hall e' he').2 hlt

/-- What is derived on a tier is of no looser one, and is printable if it can be spelled. -/
theorem Derives.printable {T : Tier} {ts : List Token} {e : Expr} (h : Derives T ts e)
    (hs : e.Spelled) : e.Printable ∧ e.tier.rank ≤ T.rank := by
  induction h with
  | integer | float | string | boolean | nil =>
    cases hs with
    | literal hv => exact ⟨.literal hv, Nat.le_refl _⟩
  | var name =>
    cases hs with
    | var hname => exact ⟨.var hname, Nat.le_refl _⟩
  | group _ ih =>
    cases hs with
    | group hs => exact ⟨.group (ih hs).1, Nat.le_refl _⟩
  | ofPrimary _ ih | ofAccess _ ih | ofFiltered _ ih | ofOrdering _ ih | ofEquality _ ih
    | ofContainment _ ih | ofConjunction _ ih =>
    obtain ⟨hp, hle⟩ := ih hs
    exact ⟨hp, Nat.le_succ_of_le hle⟩
  | field _ _ ih =>
    cases hs with
    | field hs hname => exact ⟨.field (ih hs).1 (ih hs).2 hname, Nat.le_refl _⟩
  | index _ _ ih ihplace =>
    cases hs with
    | index hs hplace =>
      exact ⟨.index (ih hs).1 (ih hs).2 (ihplace hplace).1, Nat.le_refl _⟩
  | filter _ _ ih =>
    cases hs with
    | filter hs hname _ => exact ⟨.filter (ih hs).1 (ih hs).2 hname, Nat.le_refl _⟩
  | order _ hop _ ih ihr =>
    exact hs.printable_compare (Comparison.tier_eq_ordering_iff.2 hop) (Nat.lt_succ_self _) ih ihr
  | equal _ hop _ ih ihr =>
    exact hs.printable_compare (Comparison.tier_eq_equality_iff.2 hop) (Nat.lt_succ_self _) ih ihr
  | contains _ _ ih ihr =>
    cases hs with
    | contains hl hr =>
      obtain ⟨hr, hle⟩ := ihr hr
      exact ⟨.contains (ih hl).1 (ih hl).2 hr (Nat.lt_succ_of_le hle), Nat.le_refl _⟩
  | and _ more hne _ ih ihmore =>
    exact ⟨hs.printable_logical (Nat.lt_succ_self _) hne ih ihmore, Nat.le_refl _⟩
  | or _ more hne _ ih ihmore =>
    exact ⟨hs.printable_logical (Nat.lt_succ_self _) hne ih ihmore, Nat.le_refl _⟩

/-- The printable expressions are those of the grammar that can be spelled. -/
theorem Expr.printable_iff {e : Expr} :
    e.Printable ↔ e.Spelled ∧ ∃ ts, Derives .disjunction ts e := by
  constructor
  · intro h
    obtain ⟨ws, hws⟩ := h.exists_writes
    exact ⟨h.spelled, _, (hws.of_rank_le (Tier.rank_le_disjunction _)).derives⟩
  · rintro ⟨hs, ts, hder⟩
    exact (hder.printable hs).1

/-! ## Parsing what is printed -/

/-- An expression that is printed is parsed again, within every limit beyond twice the number of
its lexemes. -/
theorem parseWithin_print {e : Expr} (h : e.Printable) {limit : Nat}
    (hlimit : 2 * e.lexemes.length + 1 ≤ limit) : parseWithin limit e.print = .ok e := by
  obtain ⟨ws, hws⟩ := h.exists_writes
  have hws := hws.of_rank_le (Tier.rank_le_disjunction _)
  obtain ⟨ts, hsplits, hitems⟩ := splits_intercalate hws.each .start
  rw [hws.lexemes] at hsplits
  have htokens : tokensOf e.print = .ok ts := by
    rw [tokensOf_eq_ok_iff, streamOf, Expr.print, String.toList_ofList,
      untilError_of_splits hsplits]
  have hder := hws.derives
  have hcost := hder.cost_le
  rw [List.length_map, ← List.length_map Prod.fst, hws.lexemes] at hcost
  rw [← hitems] at hder
  exact parseWithin_eq_ok_iff.2 ⟨ts, htokens, hder, by omega⟩

/-- A text with double quotes in it, the least integer and a keyword as the name of an attribute. -/
theorem parseWithin_print_attribute :
    (Expr.field (.group (.contains (.literal (.string "so \x22it\x22 is"))
      (.literal (.integer Int64.minValue)))) "and").Printable ∧
    parseWithin 15 "( \x27so \x22it\x22 is\x27 contains -9223372036854775808 ) . and" =
      .ok (.field (.group (.contains (.literal (.string "so \x22it\x22 is"))
        (.literal (.integer Int64.minValue)))) "and") := by
  have hstring : (Expr.literal (.string "so \x22it\x22 is")).Printable := .literal (by
    simp [Value.IsLiteral])
  have hinteger : (Expr.literal (.integer Int64.minValue)).Printable := .literal trivial
  have hname : Token.IsWord "and" :=
    (Token.isWord_of_mem_keywords (show ("and", .logical .and) ∈ Token.keywords by decide)).1
  have hprintable := Expr.Printable.field
    (.group (.contains hstring (by decide) hinteger (by decide))) (by decide) hname
  have hlimit : 2 * (Expr.field (.group (.contains (.literal (.string "so \x22it\x22 is"))
      (.literal (.integer Int64.minValue)))) "and").lexemes.length + 1 ≤ 15 := by
    simp [Expr.lexemes]
  have htext : (Expr.field (.group (.contains (.literal (.string "so \x22it\x22 is"))
      (.literal (.integer Int64.minValue)))) "and").print =
      "( \x27so \x22it\x22 is\x27 contains -9223372036854775808 ) . and" := by
    decide +kernel
  have hrun := parseWithin_print hprintable hlimit
  rw [htext] at hrun
  exact ⟨hprintable, hrun⟩

end TemplateExpr
