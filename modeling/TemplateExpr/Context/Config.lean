/-
# Configurations

What an expression takes from its host besides the bindings: the filters by their names, and what
becomes of a name without a binding.

Main statements:
* `filter?_register`: of the filters added under a name the last one counts;
* `mem_registered_iff`: the names that are listed are those of the filters.
-/
import Std.Data.TreeMap.Lemmas
import TemplateExpr.Context.Filter
import TemplateExpr.Text.Quoted

namespace TemplateExpr

/-- What a name without a binding stands for. -/
inductive UnboundPolicy where
  /-- Nil where something in it is accessed, and an error elsewhere. -/
  | strict
  /-- Nil. -/
  | lenient
  /-- An error. -/
  | error
deriving DecidableEq, Inhabited

/-- The name of a policy in dumps. -/
def UnboundPolicy.dump : UnboundPolicy → String
  | .strict => "Strict"
  | .lenient => "Lenient"
  | .error => "Error"

/-- The filters and the policy of a host. -/
structure Config where
  /-- The filters by name. -/
  filters : Std.TreeMap String Filter
  /-- What a name without a binding stands for. -/
  unbound : UnboundPolicy

namespace Config

/-- No filters, and the strict policy. -/
def new : Config := ⟨∅, .strict⟩

instance : Inhabited Config := ⟨new⟩

/-! ## Filters -/

/-- The configuration with one more filter, in place of any of the same name. -/
def register (c : Config) (name : String) (f : Filter) : Config :=
  { c with filters := c.filters.insert name f }

/-- The filter with the given name. -/
def filter? (c : Config) (name : String) : Option Filter := c.filters[name]?

/-- There is a filter with the given name. -/
def isRegistered (c : Config) (name : String) : Bool := c.filters.contains name

/-- The names of the filters in ascending order. -/
def registered (c : Config) : List String := c.filters.keys

theorem filter?_new (name : String) : new.filter? name = none :=
  Std.TreeMap.getElem?_emptyc

theorem filter?_register (c : Config) (name : String) (f : Filter) (n : String) :
    (c.register name f).filter? n = if name = n then some f else c.filter? n := by
  simp [filter?, register, Std.TreeMap.getElem?_insert]

theorem isRegistered_eq_isSome (c : Config) (name : String) :
    c.isRegistered name = (c.filter? name).isSome := by
  simp [isRegistered, filter?]

theorem mem_registered_iff (c : Config) (name : String) :
    name ∈ c.registered ↔ c.isRegistered name = true := by
  simp [registered, isRegistered]

/-! ## Policy -/

/-- The configuration with another policy. -/
def withPolicy (c : Config) (policy : UnboundPolicy) : Config := { c with unbound := policy }

/-! ## Dumps -/

/-- The text that shows a configuration. -/
def dump (c : Config) : String :=
  "Config \x7b filters: [" ++ String.intercalate ", " (c.registered.map Text.quoted) ++
    "], undefined_variables: " ++ c.unbound.dump ++ " \x7d"

end Config

end TemplateExpr
