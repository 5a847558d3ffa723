/-
# Joining texts

Where a text goes on with a blank, its last lexeme has ended.  So two texts that are split, with a
blank between them, are split together: the tokens are those of the one and then those of the other.
A separator can have tokens of its own.  The sources of some expressions, joined by a connective,
are the source of its chain, and the chain is parsed within every limit within which all of its
operands are: it costs no level.

Main statements:
* `Splits.append`: a text behind another one;
* `parseWithin_eq_ok_iff_tokenizes`: what a source is parsed to, by the tokens of its text;
* `Separates.intercalate`: texts with a separator between any two of them;
* `separates_blank`, `separates_lexeme`: the separators;
* `parseWithin_intercalate`: chains of one connective;
* `parseWithin_joined`: chains of both of them.
-/
import TemplateExpr.Proofs.Grammar.Operators
import TemplateExpr.Proofs.Parsing.Source
import TemplateExpr.Proofs.Source.Respacing

namespace TemplateExpr

variable {p : Position} {text back : List Char} {ts us : List (Located Token)}

/-! ## Texts behind each other -/

/-- A text that goes on with no lexeme does not change the tokens in front of it. -/
theorem Splits.append (h : Splits p text ts) (hback : Splits (p.after text) back us)
    (hends : ∀ t : Token, t.EndsBefore back) : Splits p (text ++ back) (ts ++ us) := by
  induction h with
  | nil hblanks => exact hback.append_blanks hblanks
  | @cons p blanks lexeme rest t ts hblanks hlexeme hrest _ ih =>
    rw [Position.after_append, Position.after_append] at hback
    rw [List.append_assoc, List.append_assoc]
    exact .cons hblanks hlexeme (hrest.append hends) (ih hback)

/-- Wherever a text begins, it is split into the same lexemes. -/
theorem Splits.exists_from (h : Splits p text ts) (q : Position) :
    ∃ us, Splits q text us ∧ us.map Located.item = ts.map Located.item := by
  induction h generalizing q with
  | nil hblanks => exact ⟨[], .nil hblanks, rfl⟩
  | @cons p blanks lexeme rest t ts hblanks hlexeme hends _ ih =>
    obtain ⟨us, hus, hitems⟩ := ih ((q.after blanks).after lexeme)
    exact ⟨_, .cons hblanks hlexeme hends hus, congrArg (t :: ·) hitems⟩

/-! ## The tokens of a text -/

/-- The text has the tokens wherever it begins. -/
def Tokenizes (text : List Char) (ts : List Token) : Prop :=
  ∀ p, ∃ ls, Splits p text ls ∧ ls.map Located.item = ts

/-- A source has its tokens wherever it begins. -/
theorem tokenizes_of_tokensOf {source : String} (h : tokensOf source = .ok ts) :
    Tokenizes source.toList (ts.map Located.item) :=
  ((tokensOf_eq_ok_iff_splits source ts).1 h).exists_from

/-- A text with tokens is a source with these tokens. -/
theorem Tokenizes.exists_tokensOf {source : String} {ts : List Token}
    (h : Tokenizes source.toList ts) :
    ∃ ls, tokensOf source = .ok ls ∧ ls.map Located.item = ts := by
  obtain ⟨ls, hsplits, hitems⟩ := h .start
  exact ⟨ls, (tokensOf_eq_ok_iff_splits source ls).2 hsplits, hitems⟩

/-- Texts behind each other have the tokens of both if no lexeme goes on. -/
theorem Tokenizes.append {ts us : List Token} (h : Tokenizes text ts) (hback : Tokenizes back us)
    (hends : ∀ t : Token, t.EndsBefore back) : Tokenizes (text ++ back) (ts ++ us) := by
  intro p
  obtain ⟨ls, hls, rfl⟩ := h p
  obtain ⟨ms, hms, rfl⟩ := hback (p.after text)
  exact ⟨ls ++ ms, hls.append hms hends, List.map_append⟩

/-- A blank at the front changes no token. -/
theorem Tokenizes.cons_blank {ts : List Token} {c : Char} (h : Tokenizes text ts)
    (hc : Text.isBlank c = true) : Tokenizes (c :: text) ts := by
  intro p
  obtain ⟨ls, hls, hitems⟩ := h (p.next c)
  have hsplits : Splits p ([c] ++ text) ls := Splits.append_blanks hls (by simpa using hc)
  exact ⟨ls, hsplits, hitems⟩

/-- One more lexeme without a blank in front of it. -/
theorem Tokenizes.cons_lexeme {lexeme : List Char} {t : Token} {ts : List Token}
    (h : Tokenizes text ts) (hlexeme : Lexeme lexeme t) (hends : t.EndsBefore text) :
    Tokenizes (lexeme ++ text) (t :: ts) := by
  intro p
  obtain ⟨ls, hls, rfl⟩ := h (p.after lexeme)
  exact ⟨⟨t, p⟩ :: ls, .cons_lexeme hlexeme hends hls, rfl⟩

/-- A lexeme has its token. -/
theorem tokenizes_of_lexeme {lexeme : List Char} {t : Token} (h : Lexeme lexeme t) :
    Tokenizes lexeme [t] := by
  have hnil : Tokenizes [] [] := fun p => ⟨[], .nil (by simp), rfl⟩
  have hends : t.EndsBefore [] := Token.endsBefore_of_blanked blanked_nil t
  simpa using hnil.cons_lexeme h hends

/-- A source is parsed within a limit if its tokens, wherever they stand, are an expression the cost
of which is below the limit. -/
theorem parseWithin_eq_ok_iff_tokenizes {limit : Nat} {source : String} {e : Expr} :
    parseWithin limit source = .ok e ↔
      ∃ ts, Tokenizes source.toList ts ∧ Derives .disjunction ts e ∧ e.cost < limit := by
  rw [parseWithin_eq_ok_iff]
  constructor
  · rintro ⟨ls, hls, hder, hcost⟩
    exact ⟨_, tokenizes_of_tokensOf hls, hder, hcost⟩
  · rintro ⟨ts, hts, hder, hcost⟩
    obtain ⟨ls, hls, rfl⟩ := hts.exists_tokensOf
    exact ⟨ls, hls, hder, hcost⟩

/-! ## Separators -/

/-- Whatever text stands behind it, the separator begins with a blank and has the tokens. -/
structure Separates (separator : List Char) (between : List Token) : Prop where
  blanked : ∀ text, Blanked (separator ++ text)
  tokenizes : ∀ {text ts}, Tokenizes text ts → Tokenizes (separator ++ text) (between ++ ts)

/-- A blank separates and has no token. -/
theorem separates_blank : Separates " ".toList [] where
  blanked text := blanked_cons (by decide) text
  tokenizes h := h.cons_blank (by decide)

/-- A lexeme with a blank on either side. -/
theorem separates_lexeme {lexeme : List Char} {t : Token} (hlexeme : Lexeme lexeme t) :
    Separates (' ' :: (lexeme ++ [' '])) [t] where
  blanked text := blanked_cons (by decide) _
  tokenizes {text ts} h := by
    have hbehind : Tokenizes (' ' :: text) ts := h.cons_blank (by decide)
    have hblanked : Blanked (' ' :: text) := blanked_cons (by decide) text
    have htokens := hbehind.cons_lexeme hlexeme (Token.endsBefore_of_blanked hblanked t)
    rw [List.cons_append, List.append_assoc]
    exact htokens.cons_blank (by decide)

/-- A connective between blanks separates and has its token. -/
theorem separates_connective (op : Connective) :
    Separates (' ' :: (op.word.toList ++ [' '])) [.logical op] := by
  cases op <;> exact separates_lexeme (.keyword (by decide))

/-- Texts with a separator between any two of them have their own tokens and those of the
separators. -/
theorem Separates.intercalate {α : Type} {separator : String} {between : List Token}
    (h : Separates separator.toList between) {text : α → String} {tokens : α → List Token} {a : α}
    {as : List α} (has : ∀ b ∈ a :: as, Tokenizes (text b).toList (tokens b)) :
    Tokenizes (separator.intercalate ((a :: as).map text)).toList
      (tokens a ++ as.flatMap fun b => between ++ tokens b) := by
  induction as generalizing a with
  | nil =>
    rw [List.map_cons, List.map_nil, String.intercalate_singleton, List.flatMap_nil,
      List.append_nil]
    exact has a List.mem_cons_self
  | cons b as ih =>
    have hrest := h.tokenizes (ih fun d hd => has d (List.mem_cons_of_mem a hd))
    have hall := (has a List.mem_cons_self).append hrest (Token.endsBefore_of_blanked (h.blanked _))
    rw [List.map_cons, List.map_cons, String.intercalate_cons_cons, String.toList_append,
      String.toList_append, List.append_assoc, List.flatMap_cons, List.append_assoc]
    exact hall

/-! ## Chains of connectives -/

variable {limit : Nat} {parts : List (String × Expr)}

/-- The tokens of some sources, each of which is an expression. -/
theorem exists_tokens_of_parts (hparts : ∀ q ∈ parts, parseWithin limit q.1 = .ok q.2) :
    ∃ tokens : String × Expr → List Token, ∀ q ∈ parts, Tokenizes q.1.toList (tokens q) ∧
      Derives .disjunction (tokens q) q.2 ∧ q.2.cost < limit := by
  have hrun : ∀ q ∈ parts, ∃ ts, Tokenizes q.1.toList ts ∧ Derives .disjunction ts q.2 ∧
      q.2.cost < limit :=
    fun q hq => parseWithin_eq_ok_iff_tokenizes.1 (hparts q hq)
  choose! tokens htokens using hrun
  exact ⟨tokens, htokens⟩

/-- Sources of expressions of the tier before are, with the connective between them, the source of
its chain. -/
theorem parseWithin_intercalate {K T : Tier} {op : Connective} {separator : String}
    (h : Parse.Connects K T op) (hseparator : separator.toList = ' ' :: (op.word.toList ++ [' ']))
    (hloosest : ∀ {ts e}, Derives K ts e → Derives .disjunction ts e) (hlen : 2 ≤ parts.length)
    (hparts : ∀ q ∈ parts, parseWithin limit q.1 = .ok q.2)
    (htier : ∀ q ∈ parts, ∀ ts, Derives .disjunction ts q.2 → Derives T ts q.2) :
    parseWithin limit (separator.intercalate (parts.map Prod.fst)) =
      .ok (.logical op (parts.map Prod.snd)) := by
  obtain ⟨tokens, htokens⟩ := exists_tokens_of_parts hparts
  obtain ⟨first, more, rfl⟩ : ∃ first more, parts = first :: more :=
    List.exists_cons_of_length_pos (by omega)
  have hne : more ≠ [] := by
    rintro rfl
    simp at hlen
  have hder := h.derives_map hne fun q hq => htier q hq _ (htokens q hq).2.1
  have hcost : (Expr.logical op ((first :: more).map Prod.snd)).cost < limit :=
    Expr.cost_logical_lt (by simp) (List.forall_mem_map.2 fun q hq => (htokens q hq).2.2)
  have hjoined := (hseparator ▸ separates_connective op).intercalate fun q hq => (htokens q hq).1
  rw [parseWithin_eq_ok_iff_tokenizes]
  exact ⟨_, hjoined, hloosest hder, hcost⟩

/-- Sources that are no chains of connectives are, with `and` between them, a chain of `and` with
just their trees for its operands, within every limit within which all of them are parsed.  The same
holds for `or` if they are no chains of `or`. -/
theorem parseWithin_joined (hlen : 2 ≤ parts.length)
    (hparts : ∀ q ∈ parts, parseWithin limit q.1 = .ok q.2) :
    ((∀ q ∈ parts, ∀ op es, q.2 ≠ .logical op es) →
      parseWithin limit (String.intercalate " and " (parts.map Prod.fst)) =
        .ok (.logical .and (parts.map Prod.snd))) ∧
    ((∀ q ∈ parts, ∀ es, q.2 ≠ .logical .or es) →
      parseWithin limit (String.intercalate " or " (parts.map Prod.fst)) =
        .ok (.logical .or (parts.map Prod.snd))) := by
  constructor
  · intro hne
    refine parseWithin_intercalate Parse.connects_and (by decide) .ofConjunction hlen hparts ?_
    intro q hq ts hder
    exact (hder.conjunction_of_ne_or (hne q hq .or)).containment_of_ne_and (hne q hq .and)
  · intro hne
    refine parseWithin_intercalate Parse.connects_or (by decide) id hlen hparts ?_
    intro q hq ts hder
    exact hder.conjunction_of_ne_or (hne q hq)

/-- Two operands that are parsed within two levels, and their chain as an operand of another one. -/
theorem parseWithin_joined_group :
    parseWithin 2 "a.b" = .ok (.field (.var "a") "b") ∧
    parseWithin 2 " (c or d)" = .ok (.group (.logical .or [.var "c", .var "d"])) ∧
    parseWithin 2 "a.b and  (c or d)" = .ok (.logical .and
      [.field (.var "a") "b", .group (.logical .or [.var "c", .var "d"])]) ∧
    parseWithin 2 "a.b and  (c or d) or a.b" = .ok (.logical .or
      [.logical .and [.field (.var "a") "b", .group (.logical .or [.var "c", .var "d"])],
        .field (.var "a") "b"]) := by
  have hfield : parseWithin 2 "a.b" = .ok (.field (.var "a") "b") := by
    have hstream : streamOf "a.b" = ⟨[.ok ⟨.identifier "a", ⟨0, 1, 1⟩⟩, .ok ⟨.dot, ⟨1, 1, 2⟩⟩,
        .ok ⟨.identifier "b", ⟨2, 1, 3⟩⟩], .ok ⟨.endOfSource, ⟨3, 1, 4⟩⟩⟩ := by cbv
    rw [parseWithin_of_head (congrArg TokenStream.head hstream), hstream]
    rfl
  have hgroup : parseWithin 2 " (c or d)" = .ok (.group (.logical .or [.var "c", .var "d"])) := by
    have hstream : streamOf " (c or d)" = ⟨[.ok ⟨.openParen, ⟨1, 1, 2⟩⟩,
        .ok ⟨.identifier "c", ⟨2, 1, 3⟩⟩, .ok ⟨.logical .or, ⟨4, 1, 5⟩⟩,
        .ok ⟨.identifier "d", ⟨7, 1, 8⟩⟩, .ok ⟨.closeParen, ⟨8, 1, 9⟩⟩],
        .ok ⟨.endOfSource, ⟨9, 1, 10⟩⟩⟩ := by cbv
    rw [parseWithin_of_head (congrArg TokenStream.head hstream), hstream]
    rfl
  have hoperands : ∀ q ∈ [("a.b", Expr.field (.var "a") "b"),
      (" (c or d)", .group (.logical .or [.var "c", .var "d"]))],
      parseWithin 2 q.1 = .ok q.2 := by
    simp [hfield, hgroup]
  have hand : parseWithin 2 "a.b and  (c or d)" = .ok (.logical .and
      [.field (.var "a") "b", .group (.logical .or [.var "c", .var "d"])]) := by
    simpa using (parseWithin_joined (by decide) hoperands).1 (by simp)
  have hchains : ∀ q ∈ [("a.b and  (c or d)", Expr.logical .and
      [.field (.var "a") "b", .group (.logical .or [.var "c", .var "d"])]),
      ("a.b", .field (.var "a") "b")], parseWithin 2 q.1 = .ok q.2 := by
    simp [hfield, hand]
  have hor := (parseWithin_joined (by decide) hchains).2 (by simp)
  exact ⟨hfield, hgroup, hand, by simpa using hor⟩

end TemplateExpr
