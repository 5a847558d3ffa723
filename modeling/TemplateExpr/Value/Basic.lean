/-
# Values

What a name can be bound to and an expression can yield.  Integers and floating-point numbers are
kept apart; a map is a finite map of values, so its entries have no order of their own.

Main statements:
* `Value.induct`: a property of all values holds if it passes from the items of a list to the
  list and from the values of a map to the map.
-/
import TemplateExpr.Binary64.Basic
import TemplateExpr.Fields

namespace TemplateExpr

/-- What messages call a kind of value. -/
inductive Kind where
  | nil
  | boolean
  | integer
  | float
  | string
  | list
  | map
deriving DecidableEq, Inhabited

/-- The name of a kind in messages. -/
def Kind.name : Kind → String
  | .nil => "nil"
  | .boolean => "boolean"
  | .integer => "integer"
  | .float => "float"
  | .string => "string"
  | .list => "list"
  | .map => "map"

/-- A value. -/
inductive Value where
  /-- The absence of a value. -/
  | nil
  | boolean (b : Bool)
  /-- An integer of 64 bits. -/
  | integer (n : Int64)
  /-- A floating-point number, never taken for an integer. -/
  | float (x : Binary64)
  | string (s : String)
  | list (items : List Value)
  | map (fields : Fields Value)
deriving Inhabited

namespace Value

/-- The kind of a value. -/
def kind : Value → Kind
  | .nil => .nil
  | .boolean _ => .boolean
  | .integer _ => .integer
  | .float _ => .float
  | .string _ => .string
  | .list _ => .list
  | .map _ => .map

/-- The value is nil. -/
def isNil : Value → Bool
  | .nil => true
  | _ => false

/-- The truth value of a boolean. -/
def bool? : Value → Option Bool
  | .boolean b => some b
  | _ => none

/-- The text of a string. -/
def string? : Value → Option String
  | .string s => some s
  | _ => none

/-- Induction over a value, the items of its lists and the values of its maps. -/
@[elab_as_elim] theorem induct {motive : Value → Prop} (nil : motive .nil)
    (boolean : ∀ b, motive (.boolean b)) (integer : ∀ n, motive (.integer n))
    (float : ∀ x, motive (.float x)) (string : ∀ s, motive (.string s))
    (list : ∀ items : List Value, (∀ v ∈ items, motive v) → motive (.list items))
    (map : ∀ fields : Fields Value, (∀ i, motive (fields.get i)) → motive (.map fields))
    (v : Value) : motive v :=
  Value.rec (motive_1 := motive) (motive_2 := fun items => ∀ v ∈ items, motive v)
    (motive_3 := fun fields => ∀ i, motive (fields.get i))
    nil boolean integer float string list map (by simp)
    (fun _ _ hhead htail => by
      intro v hv
      rcases List.mem_cons.1 hv with rfl | hv
      · exact hhead
      · exact htail v hv)
    (fun _ _ _ h => h) v

end Value

end TemplateExpr
