/-
# Access to parts of values

A list is a sequence of its items and a string one of its characters; a map has a value for
each of its names.  Access never fails: what is not there is nil.

Main statements:
* `toInt_fromFront`: counting an index from the front does not leave the integers of 64 bits;
* `place?_eq_some_iff`: which places of a sequence an index stands for.
-/
import TemplateExpr.Value.Conversion

namespace TemplateExpr

namespace Value

/-! ## Attributes -/

/-- The items of a list or the characters of a string, each a string of its own. -/
def items? : Value → Option (List Value)
  | .list items => some items
  | .string s => some (s.toList.map toValue)
  | _ => none

/-- The first item, the last item or the number of items; there are no other attributes. -/
def itemAttribute (items : List Value) (name : String) : Value :=
  if name = "first" then items.head?.getD .nil
  else if name = "last" then items.getLast?.getD .nil
  else if name = "size" then .ofNat items.length
  else .nil

/-- What stands under a name in a map, or an attribute of a sequence. -/
def field (base : Value) (name : String) : Value :=
  match base with
  | .map fields => (fields.find? name).getD .nil
  | other => (other.items?.map (itemAttribute · name)).getD .nil

/-! ## Indices -/

/-- The index counted from the front: a negative index counts from the end. -/
def fromFront (index length : Int64) : Int64 := if index < 0 then index + length else index

/-- The place, from zero, that an index stands for among `size` items; no index stands for one if
there are more items than an integer can count. -/
def place? (index : Int64) (size : Nat) : Option Nat :=
  if size ≤ Int64.maxValue.toInt then
    let length := Int64.ofNat size
    let place := fromFront index length
    if 0 ≤ place ∧ place < length then some place.toNatClampNeg else none
  else none

/-- A size that an integer can hold is held as it is. -/
theorem toInt_ofNat_of_le {size : Nat} (h : size ≤ Int64.maxValue.toInt) :
    (Int64.ofNat size).toInt = size := by
  have hmax : Int64.maxValue.toInt = 2 ^ 63 - 1 := by decide
  exact Int64.toInt_ofNat_of_lt (by omega)

/-- The sum of a negative index and a length does not leave the integers of 64 bits. -/
theorem toInt_fromFront (index : Int64) {size : Nat} (h : size ≤ Int64.maxValue.toInt) :
    (fromFront index (Int64.ofNat size)).toInt =
      if index.toInt < 0 then index.toInt + size else index.toInt := by
  have hmax : Int64.maxValue.toInt = 2 ^ 63 - 1 := by decide
  have hmin := index.le_toInt
  have hneg : index < 0 ↔ index.toInt < 0 := Int64.lt_iff_toInt_lt
  unfold fromFront
  by_cases h0 : index.toInt < 0
  · rw [if_pos (hneg.2 h0), if_pos h0, Int64.toInt_add, toInt_ofNat_of_le h]
    apply Int.bmod_eq_of_le <;> omega
  · rw [if_neg ((not_congr hneg).2 h0), if_neg h0]

theorem place?_eq_some_iff (index : Int64) {size : Nat} (h : size ≤ Int64.maxValue.toInt)
    (place : Nat) :
    place? index size = some place ↔
      place < size ∧ (index.toInt = place ∨ index.toInt = (place : Int) - size) := by
  have hfront := toInt_fromFront index h
  unfold place?
  rw [if_pos h]
  dsimp only
  generalize fromFront index (Int64.ofNat size) = front at hfront
  simp only [Int64.le_iff_toInt_le, Int64.lt_iff_toInt_lt, toInt_ofNat_of_le h,
    Int64.toNatClampNeg, Int64.toInt_zero, hfront]
  split <;> split <;> simp only [Option.some.injEq, reduceCtorEq, false_iff] <;> omega

/-- The item at an index, if the value is a sequence and the index an integer. -/
def element (base index : Value) : Value :=
  match base.items?, index with
  | some items, .integer i => ((place? i items.length).bind (items[·]?)).getD .nil
  | _, _ => .nil

end Value

end TemplateExpr
