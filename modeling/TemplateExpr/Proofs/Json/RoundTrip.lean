/-
# JSON values and back

A value that goes through JSON loses its floating-point numbers that are not finite and nothing
else, and a JSON value that goes through values has its large natural numbers rounded to the
nearest floating-point number.  Both losses are recursive functions here, and both round trips
are inductions over the values, their items and their members.

Main statements:
* `ofJson_toJson`, `toJson_ofJson`: the round trips;
* `get?_ofJson`: the bindings that come from an object are its members.
-/
import TemplateExpr.Context.Basic
import TemplateExpr.Proofs.Numbers.Nearest

namespace TemplateExpr

/-! ## Through JSON -/

namespace Value

mutual

/-- The value with nil in place of every floating-point number that is not finite. -/
def finiteOnly : Value → Value
  | .nil => .nil
  | .boolean b => .boolean b
  | .integer n => .integer n
  | .float x => if x.isFinite then .float x else .nil
  | .string s => .string s
  | .list items => .list (finiteOnlyItems items)
  | .map fields => .map (finiteOnlyFields fields)

/-- The items of a list, each with its finite numbers only. -/
def finiteOnlyItems : List Value → List Value
  | [] => []
  | v :: vs => finiteOnly v :: finiteOnlyItems vs

/-- The values of a map, each with its finite numbers only. -/
def finiteOnlyFields : Fields Value → Fields Value
  | ⟨keys, ascending, get⟩ =>
    .ofArray keys ascending (Array.ofFn fun i => finiteOnly (get i)) (by simp)

end

theorem finiteOnlyItems_eq_map (items : List Value) :
    finiteOnlyItems items = items.map finiteOnly := by
  induction items with
  | nil => rfl
  | cons v vs ih => simp [finiteOnlyItems, ih]

theorem finiteOnlyFields_eq_map (fields : Fields Value) :
    finiteOnlyFields fields = fields.map finiteOnly := by
  obtain ⟨keys, ascending, get⟩ := fields
  simp only [finiteOnlyFields, Fields.map]

/-- A value that went through JSON has its finite numbers only. -/
theorem ofJson_toJson (v : Value) : ofJson v.toJson = v.finiteOnly := by
  induction v using Value.induct with
  | nil => rfl
  | boolean b => rfl
  | integer n => rfl
  | float x =>
    rw [finiteOnly]
    by_cases h : x.isFinite = true
    · rw [toJson_float h, if_pos h, ofJson]
    · rw [toJson_float_of_not_isFinite (Bool.eq_false_of_not_eq_true h), if_neg h, ofJson]
  | string s => rfl
  | list items ih =>
    rw [toJson, ofJson, finiteOnly, toJsonItems_eq_map, ofJsonItems_eq_map,
      finiteOnlyItems_eq_map, List.map_map]
    exact congrArg Value.list (List.map_congr_left ih)
  | map fields ih =>
    rw [toJson, ofJson, finiteOnly, toJsonFields_eq_map, ofJsonMembers_eq_map,
      finiteOnlyFields_eq_map, Fields.map_map]
    exact congrArg Value.map (Fields.map_congr ih)

end Value

/-! ## Through values -/

namespace Json

/-- A large natural number is rounded to the nearest floating-point number. -/
theorem isNearest_of_large {n : UInt64} (h : Int64.maxValue.toInt < n.toNat) :
    (Binary64.ofNat n.toNat).IsNearest n.toNat := by
  have hpos : 0 < n.toNat := by
    have hmax : 0 < Int64.maxValue.toInt := by decide
    omega
  exact Binary64.isNearest_ofNat hpos n.toNat_lt

mutual

/-- The JSON value with every large natural number rounded to a floating-point number. -/
def rounded : Json → Json
  | .null => .null
  | .boolean b => .boolean b
  | .integer n => .integer n
  | .large n h => .float (Binary64.ofNat n.toNat) (isNearest_of_large h).finite
  | .float x h => .float x h
  | .string s => .string s
  | .array items => .array (roundedItems items)
  | .object members => .object (roundedMembers members)

/-- The items of an array, each with its large numbers rounded. -/
def roundedItems : List Json → List Json
  | [] => []
  | j :: js => rounded j :: roundedItems js

/-- The members of an object, each with its large numbers rounded. -/
def roundedMembers : Fields Json → Fields Json
  | ⟨keys, ascending, get⟩ =>
    .ofArray keys ascending (Array.ofFn fun i => rounded (get i)) (by simp)

end

theorem roundedItems_eq_map (items : List Json) : roundedItems items = items.map rounded := by
  induction items with
  | nil => rfl
  | cons j js ih => simp [roundedItems, ih]

theorem roundedMembers_eq_map (members : Fields Json) :
    roundedMembers members = members.map rounded := by
  obtain ⟨keys, ascending, get⟩ := members
  simp only [roundedMembers, Fields.map]

/-- A JSON value that went through values has its large numbers rounded. -/
theorem toJson_ofJson (j : Json) : (Value.ofJson j).toJson = j.rounded := by
  induction j using Json.induct with
  | null => rfl
  | boolean b => rfl
  | integer n => rfl
  | large n h => rw [Value.ofJson, Value.toJson_float (isNearest_of_large h).finite, rounded]
  | float x h => rw [Value.ofJson, Value.toJson_float h, rounded]
  | string s => rfl
  | array items ih =>
    rw [Value.ofJson, Value.toJson, rounded, Value.ofJsonItems_eq_map, Value.toJsonItems_eq_map,
      roundedItems_eq_map, List.map_map]
    exact congrArg Json.array (List.map_congr_left ih)
  | object members ih =>
    rw [Value.ofJson, Value.toJson, rounded, Value.ofJsonMembers_eq_map,
      Value.toJsonFields_eq_map, roundedMembers_eq_map, Fields.map_map]
    exact congrArg Json.object (Fields.map_congr ih)

end Json

/-! ## Bindings -/

namespace Context

/-- The bindings that come from an object. -/
def ofMembers (members : Fields Json) (config : Config) : Context :=
  ofBindings (members.map Value.ofJson).toList config

theorem ofJson_object (members : Fields Json) (config : Config) :
    ofJson (.object members) config = .ok (ofMembers members config) := rfl

/-- The bindings that come from an object are its members. -/
theorem get?_ofMembers (members : Fields Json) (config : Config) (name : String) :
    (ofMembers members config).get? name = (members.find? name).map Value.ofJson := by
  rw [ofMembers, get?_ofBindings, Fields.lookup_reverse (Fields.ascending_toList _)]
  exact members.find?_map Value.ofJson name

/-- No bindings come from anything but an object. -/
theorem ofJson_of_ne_object {j : Json} (h : ∀ members, j ≠ .object members) (config : Config) :
    ofJson j config = .error ⟨j.kindName⟩ := by
  cases j with
  | object members => exact absurd rfl (h members)
  | _ => rfl

end Context

/-! ## Both ways -/

/-- Through JSON a value loses its numbers that are not finite, through values a JSON value has its
large numbers rounded to the nearest, and the bindings that come from an object are its members. -/
theorem json_round_trip :
    (∀ v : Value, Value.ofJson v.toJson = v.finiteOnly) ∧
      (∀ j : Json, (Value.ofJson j).toJson = j.rounded) ∧
      (∀ n : UInt64, Int64.maxValue.toInt < n.toNat →
        (Binary64.ofNat n.toNat).IsNearest n.toNat) ∧
      (∀ (members : Fields Json) (config : Config),
        ∃ c, Context.ofJson (.object members) config = .ok c ∧ c.config = config ∧
          ∀ name, c.get? name = (members.find? name).map Value.ofJson) ∧
      ∀ (j : Json) (config : Config), (∀ members, j ≠ .object members) →
        Context.ofJson j config = .error ⟨j.kindName⟩ := by
  refine ⟨Value.ofJson_toJson, Json.toJson_ofJson, fun n h => Json.isNearest_of_large h,
    fun members config => ?_, fun j config h => Context.ofJson_of_ne_object h config⟩
  exact ⟨.ofMembers members config, Context.ofJson_object members config, rfl,
    Context.get?_ofMembers members config⟩

/-- Infinity is lost beside a whole floating-point number and an integer, the largest natural
number of 64 bits becomes `2 ^ 64`, and an array gives no bindings. -/
theorem json_round_trip_large :
    Value.ofJson (Value.toJson (.list [.float ⟨0x7FF0000000000000⟩, .float ⟨0x3FF0000000000000⟩,
        .integer 1])) = .list [.nil, .float ⟨0x3FF0000000000000⟩, .integer 1] ∧
      (Value.ofJson (.array [.large 0xFFFFFFFFFFFFFFFF (by decide), .integer 1])).toJson =
        .array [.float ⟨0x43F0000000000000⟩ (by decide), .integer 1] ∧
      (Int64.maxValue.toInt < (0xFFFFFFFFFFFFFFFF : UInt64).toNat ∧
        (Binary64.ofNat (0xFFFFFFFFFFFFFFFF : UInt64).toNat).IsNearest
          (0xFFFFFFFFFFFFFFFF : UInt64).toNat) ∧
      (∃ c, Context.ofJson (.object (.ofList [("a", .large 0xFFFFFFFFFFFFFFFF (by decide))]))
          default = .ok c ∧ c.get? "a" = some (.float ⟨0x43F0000000000000⟩) ∧ c.get? "b" = none) ∧
      (∀ members, Json.array [] ≠ .object members) ∧
        Context.ofJson (.array []) default = .error ⟨"array"⟩ := by
  obtain ⟨hvalue, hjson, hnearest, hobject, hother⟩ := json_round_trip
  have hlarge : Int64.maxValue.toInt < (0xFFFFFFFFFFFFFFFF : UInt64).toNat := by decide
  have hround : Binary64.ofNat (0xFFFFFFFFFFFFFFFF : UInt64).toNat = ⟨0x43F0000000000000⟩ := by
    decide +kernel
  refine ⟨hvalue _, ?_, ⟨hlarge, hnearest _ hlarge⟩, ?_, by simp, hother _ _ (by simp)⟩
  · rw [hjson]
    simp only [Json.rounded, Json.roundedItems, hround]
  · obtain ⟨c, hc, -, hget⟩ :=
      hobject (.ofList [("a", .large 0xFFFFFFFFFFFFFFFF hlarge)]) default
    refine ⟨c, hc, ?_, ?_⟩
    · rw [hget, Fields.find?_ofList, ← hround]
      rfl
    · rw [hget, Fields.find?_ofList]
      rfl

end TemplateExpr
