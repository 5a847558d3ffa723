/-
# JSON values

The data that bindings come from.  A number is an integer of 64 bits, a larger natural number of
64 bits, or a finite floating-point number; no number has two of these forms.
-/
import TemplateExpr.Binary64.Basic
import TemplateExpr.Fields

namespace TemplateExpr

/-- A JSON value. -/
inductive Json where
  | null
  | boolean (b : Bool)
  /-- An integer between `-2 ^ 63` and `2 ^ 63 - 1`. -/
  | integer (n : Int64)
  /-- A natural number from `2 ^ 63` to `2 ^ 64 - 1`. -/
  | large (n : UInt64) (large : Int64.maxValue.toInt < n.toNat)
  /-- A number with a point or an exponent. -/
  | float (x : Binary64) (finite : x.isFinite = true)
  | string (s : String)
  | array (items : List Json)
  | object (members : Fields Json)
deriving Inhabited

namespace Json

/-- What messages call a kind of JSON value. -/
def kindName : Json → String
  | .null => "null"
  | .boolean _ => "boolean"
  | .integer _ => "number"
  | .large _ _ => "number"
  | .float _ _ => "number"
  | .string _ => "string"
  | .array _ => "array"
  | .object _ => "object"

/-- The number in the form that fits it. -/
def ofWord (n : UInt64) : Json :=
  if h : Int64.maxValue.toInt < n.toNat then .large n h else .integer n.toInt64

/-- The number, or null for what is no number. -/
def ofBinary64 (x : Binary64) : Json := if h : x.isFinite = true then .float x h else .null

/-- Induction over a JSON value, the items of its arrays and the members of its objects. -/
@[elab_as_elim] theorem induct {motive : Json → Prop} (null : motive .null)
    (boolean : ∀ b, motive (.boolean b)) (integer : ∀ n, motive (.integer n))
    (large : ∀ n h, motive (.large n h)) (float : ∀ x h, motive (.float x h))
    (string : ∀ s, motive (.string s))
    (array : ∀ items : List Json, (∀ j ∈ items, motive j) → motive (.array items))
    (object : ∀ members : Fields Json, (∀ i, motive (members.get i)) → motive (.object members))
    (j : Json) : motive j :=
  Json.rec (motive_1 := motive) (motive_2 := fun items => ∀ j ∈ items, motive j)
    (motive_3 := fun members => ∀ i, motive (members.get i))
    null boolean integer large float string array object (by simp)
    (fun _ _ hhead htail => by
      intro j hj
      rcases List.mem_cons.1 hj with rfl | hj
      · exact hhead
      · exact htail j hj)
    (fun _ _ _ h => h) j

end Json

end TemplateExpr
