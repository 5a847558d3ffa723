/-
# Values from other types

The types whose elements can be bound to names as they are.  A natural number that no integer can
hold becomes the nearest floating-point number, a missing element becomes nil, and a character a
string of its own.
-/
import TemplateExpr.Binary64.Rounding
import TemplateExpr.Value.Basic

namespace TemplateExpr

/-- A type whose elements can be taken for values. -/
class ToValue (α : Type) where
  /-- The value that the element is taken for. -/
  toValue : α → Value

export ToValue (toValue)

/-! ## Scalars -/

instance : ToValue Value := ⟨id⟩

instance : ToValue Bool := ⟨.boolean⟩

instance : ToValue Int64 := ⟨.integer⟩

instance : ToValue Int32 := ⟨fun n => .integer n.toInt64⟩

instance : ToValue Binary64 := ⟨.float⟩

instance : ToValue String := ⟨.string⟩

instance : ToValue Char := ⟨fun c => .string c.toString⟩

/-- A natural number is an integer if it fits and else the nearest floating-point number. -/
def Value.ofNat (n : Nat) : Value :=
  if n ≤ Int64.maxValue.toInt then .integer (Int64.ofNat n) else .float (Binary64.ofNat n)

instance : ToValue Nat := ⟨Value.ofNat⟩

/-! ## Containers -/

instance {α : Type} [ToValue α] : ToValue (List α) := ⟨fun items => .list (items.map toValue)⟩

instance {α : Type} [ToValue α] : ToValue (Fields α) := ⟨fun fields => .map (fields.map toValue)⟩

instance {α : Type} [ToValue α] : ToValue (Option α) :=
  ⟨fun item => (item.map toValue).getD .nil⟩

/-- The map with the given entries, of which the last one with a name counts. -/
def Value.ofEntries (entries : List (String × Value)) : Value := .map (Fields.ofList entries)

end TemplateExpr
