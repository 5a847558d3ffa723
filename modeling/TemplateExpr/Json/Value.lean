/-
# JSON values and values

Every JSON value is a value; a number too large for an integer becomes the nearest floating-point
number.  Every value is a JSON value, except that a floating-point number that is not finite
becomes null.

Main statements:
* `toJson_float`, `toJson_float_of_not_isFinite`: what becomes of a floating-point number.
-/
import TemplateExpr.Binary64.Rounding
import TemplateExpr.Json.Basic
import TemplateExpr.Value.Basic

namespace TemplateExpr

namespace Value

/-! ## From JSON -/

mutual

/-- The value of a JSON value. -/
def ofJson : Json → Value
  | .null => .nil
  | .boolean b => .boolean b
  | .integer n => .integer n
  | .large n _ => .float (Binary64.ofNat n.toNat)
  | .float x _ => .float x
  | .string s => .string s
  | .array items => .list (ofJsonItems items)
  | .object members => .map (ofJsonMembers members)

/-- The values of the items of an array. -/
def ofJsonItems : List Json → List Value
  | [] => []
  | j :: js => ofJson j :: ofJsonItems js

/-- The values of the members of an object. -/
def ofJsonMembers : Fields Json → Fields Value
  | ⟨keys, ascending, get⟩ =>
    .ofArray keys ascending (Array.ofFn fun i => ofJson (get i)) (by simp)

end

/-- The items of an array are turned into values one by one. -/
theorem ofJsonItems_eq_map (items : List Json) : ofJsonItems items = items.map ofJson := by
  induction items with
  | nil => rfl
  | cons j js ih => simp [ofJsonItems, ih]

/-- The members of an object are turned into values one by one. -/
theorem ofJsonMembers_eq_map (members : Fields Json) :
    ofJsonMembers members = members.map ofJson := by
  obtain ⟨keys, ascending, get⟩ := members
  simp only [ofJsonMembers, Fields.map]

/-! ## To JSON -/

mutual

/-- The JSON value of a value. -/
def toJson : Value → Json
  | .nil => .null
  | .boolean b => .boolean b
  | .integer n => .integer n
  | .float x => .ofBinary64 x
  | .string s => .string s
  | .list items => .array (toJsonItems items)
  | .map fields => .object (toJsonFields fields)

/-- The JSON values of the items of a list. -/
def toJsonItems : List Value → List Json
  | [] => []
  | v :: vs => toJson v :: toJsonItems vs

/-- The JSON values of the values of a map. -/
def toJsonFields : Fields Value → Fields Json
  | ⟨keys, ascending, get⟩ =>
    .ofArray keys ascending (Array.ofFn fun i => toJson (get i)) (by simp)

end

/-- The items of a list are turned into JSON one by one. -/
theorem toJsonItems_eq_map (items : List Value) : toJsonItems items = items.map toJson := by
  induction items with
  | nil => rfl
  | cons v vs ih => simp [toJsonItems, ih]

/-- The values of a map are turned into JSON one by one. -/
theorem toJsonFields_eq_map (fields : Fields Value) :
    toJsonFields fields = fields.map toJson := by
  obtain ⟨keys, ascending, get⟩ := fields
  simp only [toJsonFields, Fields.map]

/-- A finite number stays a number. -/
theorem toJson_float {x : Binary64} (h : x.isFinite = true) : toJson (.float x) = .float x h := by
  simp [toJson, Json.ofBinary64, h]

/-- A number that is not finite is null in JSON. -/
theorem toJson_float_of_not_isFinite {x : Binary64} (h : x.isFinite = false) :
    toJson (.float x) = .null := by
  simp [toJson, Json.ofBinary64, h]

end Value

end TemplateExpr
