/-
# Access by index

A list is indexed by its items and a string by its characters, from the front or, with negative
indices, from the end.  Access never fails: outside the sequence, in values without items and with
indices that are no integers there is nil.

Main statements:
* `element_of_hasItems`, `element_eq_nil_of_hasItems`: each item stands at two indices, and nothing
  at any other;
* `elements_eq_of_hasItems`, `ofItems_of_hasItems`: the elements are the items, and these make up
  the sequence;
* `access_of_hasItems`: what access to sequences and to other values gives.
-/
import TemplateExpr.Eval.Basic

namespace TemplateExpr

namespace Value

/-! ## Sequences -/

/-- The value is a list with the items, or a string with the characters as strings of their own. -/
inductive HasItems : Value → List Value → Prop
  | list (items : List Value) : HasItems (.list items) items
  | string (s : String) : HasItems (.string s) (s.toList.map fun c => .string c.toString)

variable {x : Value} {items : List Value}

/-- A list and a string have the attributes of their items. -/
theorem field_of_hasItems (h : HasItems x items) (name : String) :
    x.field name = itemAttribute items name := by
  cases h <;> rfl

/-- A list and a string are indexed by their items. -/
theorem element_eq_of_hasItems (h : HasItems x items) (i : Int64) :
    x.element (.integer i) = ((place? i items.length).bind (items[·]?)).getD .nil := by
  cases h <;> rfl

/-- The list of the items, or the string that their texts make up. -/
def ofItems (kind : Kind) (items : List Value) : Value :=
  if kind = .string then .string (String.join (items.filterMap string?)) else .list items

theorem join_toString (cs : List Char) : String.join (cs.map Char.toString) = String.ofList cs := by
  apply String.toList_inj.1
  rw [String.toList_join, String.toList_ofList, List.flatMap_map]
  show cs.flatMap (fun c => (String.singleton c).toList) = cs
  simp

theorem ofItems_of_hasItems (h : HasItems x items) : ofItems x.kind items = x := by
  cases h with
  | list => rfl
  | string s =>
    have htexts : (s.toList.map fun c => Value.string c.toString).filterMap string? =
        s.toList.map Char.toString := by
      rw [List.filterMap_map]
      show s.toList.filterMap (some ∘ Char.toString) = _
      rw [List.filterMap_eq_map]
    show Value.string (String.join _) = _
    rw [htexts, join_toString, String.ofList_toList]

/-! ## Indices -/

/-- The item at a place stands at the index that counts from the front and at the one that counts
from the end. -/
theorem element_of_hasItems (h : HasItems x items) (hsize : items.length ≤ Int64.maxValue.toInt)
    {i : Int64} {k : Nat} (hk : k < items.length)
    (hi : i.toInt = k ∨ i.toInt = (k : Int) - items.length) :
    x.element (.integer i) = items[k] := by
  have hplace := (place?_eq_some_iff i hsize k).2 ⟨hk, hi⟩
  rw [element_eq_of_hasItems h, hplace, Option.bind_some, List.getElem?_eq_getElem hk]
  rfl

/-- At any other index there is nothing. -/
theorem element_eq_nil_of_hasItems (h : HasItems x items)
    (hsize : items.length ≤ Int64.maxValue.toInt) {i : Int64}
    (hi : i.toInt < -items.length ∨ items.length ≤ i.toInt) : x.element (.integer i) = .nil := by
  have hplace : place? i items.length = none := by
    rw [Option.eq_none_iff_forall_ne_some]
    intro k hk
    have := (place?_eq_some_iff i hsize k).1 hk
    omega
  rw [element_eq_of_hasItems h, hplace]
  rfl

/-- Only sequences have elements, and only at integers. -/
theorem element_eq_nil_of_kind {base index : Value}
    (h : base.kind ∉ [Kind.list, .string] ∨ index.kind ≠ .integer) :
    base.element index = .nil := by
  cases index with
  | integer i =>
    have hbase := h.resolve_right (by simp [kind])
    cases base with
    | list | string => simp [kind] at hbase
    | _ => rfl
  | _ => cases base <;> rfl

/-- The elements from the front are the items. -/
theorem elements_eq_of_hasItems (h : HasItems x items)
    (hsize : items.length ≤ Int64.maxValue.toInt) :
    ((List.range items.length).map fun k => x.element (.integer (Int64.ofNat k))) = items := by
  apply List.ext_getElem
  · simp
  · intro k _ hk
    have hint : (Int64.ofNat k).toInt = k := toInt_ofNat_of_le (by omega)
    rw [List.getElem_map, List.getElem_range]
    exact element_of_hasItems h hsize hk (.inl hint)

/-- The difference of an index and the length does not leave the integers of 64 bits. -/
theorem toInt_sub_length {size : Nat} (hsize : size ≤ Int64.maxValue.toInt) {i : Int64}
    (hi : 0 ≤ i.toInt) : (i - Int64.ofNat size).toInt = i.toInt - size := by
  have hmax : Int64.maxValue.toInt = 2 ^ 63 - 1 := by decide
  have hhigh := i.toInt_lt
  rw [Int64.toInt_sub, toInt_ofNat_of_le hsize]
  apply Int.bmod_eq_of_le <;> omega

/-! ## Attributes -/

theorem field_size_of_hasItems (h : HasItems x items)
    (hsize : items.length ≤ Int64.maxValue.toInt) :
    x.field "size" = .integer (Int64.ofNat items.length) := by
  rw [field_of_hasItems h]
  show ofNat items.length = _
  rw [ofNat, if_pos hsize]

/-- The first item is the element at zero. -/
theorem field_first_of_hasItems (h : HasItems x items)
    (hsize : items.length ≤ Int64.maxValue.toInt) :
    x.field "first" = x.element (.integer 0) := by
  have hint : (0 : Int64).toInt = 0 := Int64.toInt_zero
  rw [field_of_hasItems h]
  show items.head?.getD .nil = _
  by_cases hitems : items = []
  · have hnil := element_eq_nil_of_hasItems h hsize (i := 0) (.inr (by simp [hitems]))
    rw [hnil, hitems]
    rfl
  · have hpos := List.length_pos_iff.2 hitems
    rw [element_of_hasItems h hsize hpos (.inl hint), List.head?_eq_getElem?,
      List.getElem?_eq_getElem hpos]
    rfl

/-- The last item is the element one before zero. -/
theorem field_last_of_hasItems (h : HasItems x items)
    (hsize : items.length ≤ Int64.maxValue.toInt) :
    x.field "last" = x.element (.integer (-1)) := by
  have hint : (-1 : Int64).toInt = -1 := by decide
  rw [field_of_hasItems h]
  show items.getLast?.getD .nil = _
  by_cases hitems : items = []
  · have hnil := element_eq_nil_of_hasItems h hsize (i := -1) (.inl (by simp [hitems]))
    rw [hnil, hitems]
    rfl
  · have hpos := List.length_pos_iff.2 hitems
    rw [element_of_hasItems h hsize (k := items.length - 1) (by omega) (.inr (by omega)),
      List.getLast?_eq_getElem?, List.getElem?_eq_getElem (by omega)]
    rfl

/-! ## Access -/

/-- What access to a sequence with the items gives. -/
structure Accesses (x : Value) (items : List Value) : Prop where
  /-- An index that is not negative counts from the front. -/
  front (i : Int64) : 0 ≤ i.toInt → i.toInt < items.length →
    items[i.toInt.toNat]? = some (x.element (.integer i))
  /-- A negative index counts from the end. -/
  back (i : Int64) : i.toInt < 0 → -items.length ≤ i.toInt →
    items[(i.toInt + items.length).toNat]? = some (x.element (.integer i))
  /-- Beyond both ends there is nothing. -/
  outside (i : Int64) : i.toInt < -items.length ∨ items.length ≤ i.toInt →
    x.element (.integer i) = .nil
  /-- The place of an index is reached within the integers of 64 bits. -/
  noOverflow (i : Int64) : (fromFront i (Int64.ofNat items.length)).toInt =
    if i.toInt < 0 then i.toInt + items.length else i.toInt
  /-- The size is the number of items. -/
  size : ∃ n : Int64, x.field "size" = .integer n ∧ n.toInt = items.length
  /-- The first item stands at zero. -/
  first : x.field "first" = x.element (.integer 0)
  /-- The last item stands one before zero. -/
  last : x.field "last" = x.element (.integer (-1))
  /-- Without items there is neither. -/
  empty : items = [] → x.field "first" = .nil ∧ x.field "last" = .nil
  /-- Every item stands at two indices, as far from each other as there are items. -/
  twice (i : Int64) : 0 ≤ i.toInt → i.toInt < items.length →
    (i - Int64.ofNat items.length).toInt = i.toInt - items.length ∧
      x.element (.integer i) = x.element (.integer (i - Int64.ofNat items.length))
  /-- The elements in order make up the sequence again. -/
  rebuilt : ofItems x.kind
    ((List.range items.length).map fun k => x.element (.integer (Int64.ofNat k))) = x

theorem accesses_of_hasItems (h : HasItems x items)
    (hsize : items.length ≤ Int64.maxValue.toInt) : Accesses x items where
  front i hlow hhigh := by
    have hk : i.toInt.toNat < items.length := by omega
    rw [List.getElem?_eq_getElem hk, element_of_hasItems h hsize hk (by omega)]
  back i hneg hlow := by
    have hk : (i.toInt + items.length).toNat < items.length := by omega
    rw [List.getElem?_eq_getElem hk, element_of_hasItems h hsize hk (by omega)]
  outside i hi := element_eq_nil_of_hasItems h hsize hi
  noOverflow i := toInt_fromFront i hsize
  size := ⟨_, field_size_of_hasItems h hsize, toInt_ofNat_of_le hsize⟩
  first := field_first_of_hasItems h hsize
  last := field_last_of_hasItems h hsize
  empty hitems := by
    rw [field_of_hasItems h, field_of_hasItems h, hitems]
    exact ⟨rfl, rfl⟩
  twice i hlow hhigh := by
    have hk : i.toInt.toNat < items.length := by omega
    have hsub := toInt_sub_length hsize hlow
    refine ⟨hsub, ?_⟩
    rw [element_of_hasItems h hsize hk (by omega), element_of_hasItems h hsize hk (by omega)]
  rebuilt := by
    rw [elements_eq_of_hasItems h hsize]
    exact ofItems_of_hasItems h

end Value

namespace Context

/-- Access to what both operands come to is what the access comes to. -/
theorem evalAs_index_of_ok {c : Context} {object place : Expr} {base index : Value}
    (hbase : (c.evalAs .base object).outcome = .ok base)
    (hindex : (c.evalAs .itself place).outcome = .ok index) (role : Role) :
    (c.evalAs role (.index object place)).outcome = .ok (base.element index) := by
  rw [evalAs]
  generalize c.evalAs .base object = m at hbase
  generalize c.evalAs .itself place = m' at hindex
  obtain ⟨outcome, calls⟩ := m
  obtain ⟨outcome', calls'⟩ := m'
  obtain rfl : outcome = .ok base := hbase
  obtain rfl : outcome' = .ok index := hindex
  rfl

theorem evalAs_field_of_ok {c : Context} {object : Expr} {base : Value}
    (hbase : (c.evalAs .base object).outcome = .ok base) (role : Role) (name : String) :
    (c.evalAs role (.field object name)).outcome = .ok (base.field name) := by
  rw [evalAs]
  generalize c.evalAs .base object = m at hbase
  obtain ⟨outcome, calls⟩ := m
  obtain rfl : outcome = .ok base := hbase
  rfl

/-- In a list and in a string, with characters for items, an index from zero on counts from the
front and a negative one from the end, within the integers of 64 bits; beyond both ends there is
nil.  The attributes agree with this, and the elements in order make up the sequence.  Access by
index never fails: it comes to a value for all values, and to nil where the base has no items or the
index is no integer.  No sequence has more items than an integer can count. -/
theorem access_of_hasItems :
    (∀ (x : Value) (items : List Value), x.HasItems items →
      items.length ≤ Int64.maxValue.toInt → x.Accesses items) ∧
    (∀ (c : Context) (role : Role) (object : Expr) (base : Value),
      (c.evalAs .base object).outcome = .ok base →
        (∀ place index, (c.evalAs .itself place).outcome = .ok index →
          (c.evalAs role (.index object place)).outcome = .ok (base.element index)) ∧
        ∀ name, (c.evalAs role (.field object name)).outcome = .ok (base.field name)) ∧
    ∀ base index : Value, base.kind ∉ [Kind.list, .string] ∨ index.kind ≠ .integer →
      base.element index = .nil :=
  ⟨fun _ _ => Value.accesses_of_hasItems,
    fun _ role _ _ hbase =>
      ⟨fun _ _ hindex => evalAs_index_of_ok hbase hindex role, evalAs_field_of_ok hbase role⟩,
    fun _ _ => Value.element_eq_nil_of_kind⟩

/-- The last character of a string of two, which take three bytes, and the least index of all. -/
theorem access_of_hasItems_string :
    (Value.string "aé").element (.integer (-1)) = .string "é" ∧
      (Value.string "aé").element (.integer Int64.minValue) = .nil ∧
      (Value.string "aé").field "last" = .string "é" ∧
      ((empty .new).evalAs .itself (.index (.literal .nil) (.literal (.string "0")))).outcome =
        .ok .nil := by
  have hitems := Value.HasItems.string "aé"
  have haccess := access_of_hasItems.1 _ _ hitems (by decide)
  have hback := haccess.back (-1) (by decide) (by decide)
  have hlast : (Value.string "aé").element (.integer (-1)) = .string "é" :=
    (Option.some.inj hback).symm
  refine ⟨hlast, haccess.outside _ (.inl (by decide)), haccess.last.trans hlast, ?_⟩
  rw [(access_of_hasItems.2.1 (empty .new) .itself _ .nil rfl).1 _ (.string "0") rfl,
    access_of_hasItems.2.2 .nil (.string "0") (.inr (by decide))]

end Context

end TemplateExpr
