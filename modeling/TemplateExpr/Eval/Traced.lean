/-
# Traced outcomes

What a computation comes to, together with the calls of filters that it made on the way.  The
calls stay on record when the computation fails.

Main statements:
* `bind_ok`, `bind_error`: what a sequence of two computations comes to.
-/
import TemplateExpr.Value.Basic

namespace TemplateExpr

/-- A call of a filter. -/
structure Call where
  /-- The name of the filter. -/
  filter : String
  /-- What it was applied to. -/
  input : Value
  /-- Its arguments. -/
  args : List Value

/-- An outcome and the calls on the way to it, the first call first. -/
structure Traced (ε α : Type) where
  /-- The result or the error. -/
  outcome : Except ε α
  /-- The calls that were made. -/
  calls : List Call

namespace Traced

variable {ε α β : Type}

/-- An outcome without calls. -/
def ofExcept (outcome : Except ε α) : Traced ε α := ⟨outcome, []⟩

/-- An error without calls. -/
def fail (e : ε) : Traced ε α := ofExcept (.error e)

/-- One computation after another, unless the first one fails. -/
def andThen (m : Traced ε α) (f : α → Traced ε β) : Traced ε β :=
  match m.outcome with
  | .ok a => ⟨(f a).outcome, m.calls ++ (f a).calls⟩
  | .error e => ⟨.error e, m.calls⟩

instance : Monad (Traced ε) where
  pure a := ofExcept (.ok a)
  bind := andThen

theorem pure_eq (a : α) : (pure a : Traced ε α) = ⟨.ok a, []⟩ := rfl

theorem bind_ok (a : α) (calls : List Call) (f : α → Traced ε β) :
    ((⟨.ok a, calls⟩ : Traced ε α) >>= f) = ⟨(f a).outcome, calls ++ (f a).calls⟩ := rfl

theorem bind_error (e : ε) (calls : List Call) (f : α → Traced ε β) :
    ((⟨.error e, calls⟩ : Traced ε α) >>= f) = ⟨.error e, calls⟩ := rfl

instance : LawfulMonad (Traced ε) :=
  LawfulMonad.mk' _
    (fun m => by
      obtain ⟨outcome, calls⟩ := m
      cases outcome <;> simp [Functor.map, andThen, ofExcept])
    (fun a f => by simp [pure_eq, bind_ok])
    (fun m f g => by
      obtain ⟨outcome, calls⟩ := m
      cases outcome with
      | error e => rfl
      | ok a =>
        rw [bind_ok, bind_ok]
        cases h : (f a).outcome <;> simp [bind, andThen, h])

/-- The same computation with its error seen as another one. -/
def mapError {ε' : Type} (g : ε → ε') (m : Traced ε α) : Traced ε' α :=
  ⟨m.outcome.mapError g, m.calls⟩

end Traced

end TemplateExpr
