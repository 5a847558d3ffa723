/-
# Contexts

Values bound to names, with the configuration under which expressions see them.  A context does
not change; binding a name gives a new context.

Main statements:
* `get?_ofBindings`: of the bindings of a name the last one counts;
* `get?_bind`: a binding answers for its own name and leaves all others as they were;
* `find?_bindings`: the list of all bindings has the value of every name;
* `config_bind`: binding a name leaves the configuration alone.
-/
import TemplateExpr.Context.Config
import TemplateExpr.Json.Value
import TemplateExpr.Value.Dump

namespace TemplateExpr

/-- Bindings and a configuration. -/
structure Context where
  /-- The values by name. -/
  values : Std.TreeMap String Value
  /-- The filters and the policy. -/
  config : Config

namespace Context

/-! ## Building -/

/-- No bindings. -/
def empty (config : Config) : Context := ⟨∅, config⟩

instance : Inhabited Context := ⟨empty default⟩

/-- The context in which `name` has the given value and every other name what it had. -/
def bind (c : Context) (name : String) (value : Value) : Context :=
  { c with values := c.values.insert name value }

/-- The bindings of a list, of which the last one for a name counts. -/
def ofBindings (bindings : List (String × Value)) (config : Config) : Context :=
  ⟨Fields.treeOfList bindings, config⟩

/-! ## Reading -/

/-- The value of a name. -/
def get? (c : Context) (name : String) : Option Value := c.values[name]?

/-- The name has a value. -/
def contains (c : Context) (name : String) : Bool := c.values.contains name

/-- The number of names with a value. -/
def size (c : Context) : Nat := c.values.size

/-- No name has a value. -/
def isEmpty (c : Context) : Bool := c.values.isEmpty

/-- All names with their values. -/
def bindings (c : Context) : Fields Value := .ofTreeMap c.values

/-- The map of all bindings has under a name what the context has. -/
theorem find?_bindings (c : Context) (name : String) : c.bindings.find? name = c.get? name :=
  Fields.find?_ofTreeMap c.values name

/-- A context with one more binding differs at that name only. -/
theorem get?_bind (c : Context) (name : String) (value : Value) (n : String) :
    (c.bind name value).get? n = if name = n then some value else c.get? n := by
  simp [get?, bind, Std.TreeMap.getElem?_insert]

/-- Of several bindings of a name the last one counts. -/
theorem get?_ofBindings (bindings : List (String × Value)) (config : Config) (name : String) :
    (ofBindings bindings config).get? name = bindings.reverse.lookup name :=
  Fields.getElem?_treeOfList bindings name

/-- A context contains the names that have a value. -/
theorem contains_eq_isSome (c : Context) (name : String) :
    c.contains name = (c.get? name).isSome := by
  simp [contains, get?]

/-- The map of all bindings has the size of the context. -/
theorem size_bindings (c : Context) : c.bindings.size = c.size := by
  rw [bindings, Fields.size_ofTreeMap, size]

/-- A binding leaves the configuration as it is. -/
theorem config_bind (c : Context) (name : String) (value : Value) :
    (c.bind name value).config = c.config := rfl

/-! ## Bindings from JSON -/

/-- The reason why a JSON value gives no bindings. -/
structure NotAnObject where
  /-- What it is instead of an object. -/
  kind : String
deriving DecidableEq, Inhabited

/-- The message for a JSON value that gives no bindings. -/
def NotAnObject.message (e : NotAnObject) : String :=
  "bindings must be a JSON object, got " ++ e.kind

/-- The members of a JSON object as bindings. -/
def ofJson (json : Json) (config : Config) : Except NotAnObject Context :=
  match json with
  | .object members => .ok (ofBindings (members.map Value.ofJson).toList config)
  | other => .error ⟨other.kindName⟩

/-! ## Dumps -/

/-- The text that shows a context. -/
def dump (c : Context) : String :=
  "Context \x7b bindings: " ++ Value.dumpFields c.bindings ++ ", config: " ++ c.config.dump ++
    " \x7d"

end Context

end TemplateExpr
