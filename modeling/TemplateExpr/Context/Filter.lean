/-
# Filters

A filter turns its input and its arguments into a value or refuses them with a message.  Filters
come from the host; expressions know them by name.
-/
import TemplateExpr.Value.Basic

namespace TemplateExpr

/-- The refusal of an input by a filter. -/
structure Refusal where
  /-- The reason in the filter's own words. -/
  message : String
deriving DecidableEq, Inhabited

/-- The refusal of an input for its kind. -/
def Refusal.wrongKind (filter : String) (input : Value) : Refusal :=
  ⟨filter ++ " cannot be applied to " ++ input.kind.name⟩

/-- What a filter makes of an input and arguments. -/
abbrev Filter : Type := Value → List Value → Except Refusal Value

end TemplateExpr
