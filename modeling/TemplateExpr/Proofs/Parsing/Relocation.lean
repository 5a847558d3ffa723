/-
# Places of tokens

A parser looks at tokens and not at the places where they stand.  Where every token is put at
another place, the parser does the same: it finds the same tree, or it meets the same error at the
place where the token is now.

Main statements:
* `blind_expression`: expressions do not depend on places;
* `parseWithin_of_relocate`: neither do sources whose answers are the same but for the places.
-/
import TemplateExpr.Proofs.Parsing.Composition
import TemplateExpr.Proofs.Parsing.Source

namespace TemplateExpr

/-! ## Other places -/

/-- The same at another place. -/
def Located.relocate {α : Type} (f : Position → Position) (t : Located α) : Located α :=
  ⟨t.item, f t.position⟩

/-- The same error at another place. -/
def LexicalError.relocate (f : Position → Position) (e : LexicalError) : LexicalError :=
  ⟨e.fault, f e.position⟩

/-- The same answer at another place. -/
def relocateAnswer (f : Position → Position) : TokenAnswer → TokenAnswer
  | .ok t => .ok (t.relocate f)
  | .error e => .error (e.relocate f)

/-- The same stream at another place. -/
def TokenStream.relocate (f : Position → Position) (s : TokenStream) : TokenStream :=
  ⟨s.ahead.map (relocateAnswer f), relocateAnswer f s.final⟩

/-- The same cursor at another place. -/
def Cursor.relocate (f : Position → Position) (c : Cursor) : Cursor :=
  ⟨c.current.relocate f, c.ahead.relocate f⟩

/-- The same reason at another place. -/
def Stop.relocate (f : Position → Position) : Stop → Stop
  | .lexical e => .lexical (e.relocate f)
  | .missing wanted => .missing wanted
  | .tooDeep => .tooDeep

/-- The same failure at another place. -/
def Failure.relocate (f : Position → Position) (failure : Failure) : Failure :=
  ⟨failure.stop.relocate f, failure.entered⟩

/-- The same error of a parser at another place. -/
def SyntaxError.relocate (f : Position → Position) : SyntaxError → SyntaxError
  | .lexical e => .lexical (e.relocate f)
  | .wrongToken wanted found p => .wrongToken wanted found (f p)
  | .sourceEnded wanted p => .sourceEnded wanted (f p)
  | .tooDeep limit p => .tooDeep limit (f p)

variable {f : Position → Position}

/-- The next answer is the same at another place. -/
theorem TokenStream.head_relocate (s : TokenStream) :
    (s.relocate f).head = relocateAnswer f s.head := by
  obtain ⟨ahead, final⟩ := s
  cases ahead <;> rfl

/-- The stream after it is the same at another place. -/
theorem TokenStream.tail_relocate (s : TokenStream) :
    (s.relocate f).tail = s.tail.relocate f := by
  obtain ⟨ahead, final⟩ := s
  cases ahead <;> rfl

/-- One answer further on, behind the token `t`. -/
theorem Cursor.relocate_tail (c : Cursor) (t : Located Token) :
    (⟨t.relocate f, (c.relocate f).ahead.tail⟩ : Cursor) =
      Cursor.relocate f ⟨t, c.ahead.tail⟩ :=
  congrArg (Cursor.mk (t.relocate f)) c.ahead.tail_relocate

namespace SyntaxError

/-- What is missing does not depend on the place. -/
theorem missing_relocate (wanted : Expectation) (found : Located Token) :
    missing wanted (found.relocate f) = (missing wanted found).relocate f := by
  show (if found.item = .endOfSource then _ else _) =
    (if found.item = .endOfSource then _ else _ : SyntaxError).relocate f
  split <;> rfl

/-- The error that is told does not depend on the place. -/
theorem ofStop_relocate (limit : Nat) (current : Located Token) (s : Stop) :
    ofStop limit (current.relocate f) (s.relocate f) = (ofStop limit current s).relocate f := by
  cases s with
  | missing wanted => exact missing_relocate wanted current
  | lexical | tooDeep => rfl

end SyntaxError

/-! ## Parsers -/

namespace Parse

/-- The same result with everything at another place. -/
def relocateResult {α : Type} (f : Position → Position) :
    EStateM.Result Failure Cursor α → EStateM.Result Failure Cursor α
  | .ok a c => .ok a (c.relocate f)
  | .error failure c => .error (failure.relocate f) (c.relocate f)

/-- Whatever its budget, the parser does not look at the places of tokens. -/
def Blind (_ : Nat) (α : Type) (p : Parse α) (c : Cursor) : Prop :=
  ∀ f : Position → Position, p (c.relocate f) = relocateResult f (p c)

/-- Moving on does not depend on the places of tokens. -/
theorem blind_advance {b : Nat} (c : Cursor) : Blind b Unit advance c := by
  intro f
  have hhead : (c.relocate f).ahead.head = _ := c.ahead.head_relocate
  cases hh : c.ahead.head with
  | ok t =>
    rw [hh] at hhead
    rw [advance_of_ok hh, advance_of_ok hhead]
    exact congrArg (EStateM.Result.ok ()) (c.relocate_tail t)
  | error e =>
    rw [hh] at hhead
    rw [advance_of_error hh, advance_of_error hhead]
    exact congrArg (EStateM.Result.error _) (c.relocate_tail c.current)

/-- A sequence does not depend on the places of tokens if its parts do not. -/
theorem blind_bind {b : Nat} {α β : Type} {p : Parse α} {q : α → Parse β} {c : Cursor}
    (hp : Blind b α p c) (hq : ∀ {a c₁}, p c = .ok a c₁ → Blind b β (q a) c₁) :
    Blind b β (p >>= q) c := by
  intro f
  have h := hp f
  cases hrun : p c with
  | ok a c' =>
    rw [hrun] at h
    rw [bind_of_ok hrun, bind_of_ok h]
    exact hq hrun f
  | error failure c' =>
    rw [hrun] at h
    rw [bind_of_error hrun, bind_of_error h]
    rfl

/-- Whether a level counts does not depend on the places of tokens. -/
theorem blind_within {b b' : Nat} {α : Type} {p : Parse α} {c : Cursor} (hp : Blind b α p c) :
    Blind b' α (within p) c := by
  intro f
  have h := hp f
  cases hrun : p c with
  | ok a c' =>
    rw [hrun] at h
    rw [within_of_ok hrun, within_of_ok h]
    rfl
  | error failure c' =>
    rw [hrun] at h
    rw [within_of_error hrun, within_of_error h]
    rfl

/-- No way of putting parsers together depends on the places of tokens. -/
theorem composes_blind : Composes Blind where
  pure _ _ _ _ _ := rfl
  missing _ _ _ _ _ := rfl
  advance _ c _ := blind_advance c
  peek {b α q c} h f := by
    rw [peek_bind, peek_bind]
    exact h f
  ahead {b α q c} hq h f := by
    -- the number of answers ahead is no place
    have hlength : (c.relocate f).ahead.ahead.length = c.ahead.ahead.length :=
      List.length_map (relocateAnswer f)
    show q (c.relocate f) (c.relocate f) = relocateResult f (q c c)
    rw [hq _ c hlength, h]
  bind := blind_bind
  enterTooDeep _ _ := rfl
  within := blind_within

/-- An expression is parsed in the same way wherever its tokens stand. -/
theorem blind_expression (b : Nat) (c : Cursor) : Blind b Expr (expression b) c :=
  composes_blind.expression b c

end Parse

/-! ## Sources -/

/-- A source whose answers are those of another one at other places is parsed like the other one,
and an error is met at the place that takes the place of the other one. -/
theorem parseWithin_of_relocate {source source' : String}
    (h : streamOf source' = (streamOf source).relocate f) (limit : Nat) :
    parseWithin limit source' = (parseWithin limit source).mapError (SyntaxError.relocate f) := by
  have hhead := (streamOf source).head_relocate (f := f)
  have htail := (streamOf source).tail_relocate (f := f)
  rw [← h] at hhead htail
  cases hh : (streamOf source).head with
  | error e =>
    rw [hh] at hhead
    rw [parseWithin_of_head_eq_error hh, parseWithin_of_head_eq_error hhead]
    rfl
  | ok t =>
    rw [hh] at hhead
    have hrun' := Parse.blind_expression limit ⟨t, (streamOf source).tail⟩ f
    have hcursor : Cursor.relocate f ⟨t, (streamOf source).tail⟩ =
        ⟨t.relocate f, (streamOf source').tail⟩ :=
      congrArg (Cursor.mk (t.relocate f)) htail.symm
    rw [hcursor] at hrun'
    cases hrun : Parse.expression limit ⟨t, (streamOf source).tail⟩ with
    | ok e c =>
      rw [hrun] at hrun'
      rw [parseWithin_of_ok hh hrun, parseWithin_of_ok hhead hrun']
      show (if c.current.item = .endOfSource then _ else _) = _
      split
      · rfl
      · exact congrArg Except.error (SyntaxError.missing_relocate .endOfSource c.current)
    | error failure c =>
      rw [hrun] at hrun'
      rw [parseWithin_of_error hh hrun, parseWithin_of_error hhead hrun']
      exact congrArg Except.error (SyntaxError.ofStop_relocate limit c.current failure.stop)

end TemplateExpr
