/-
# The order of values

Numbers of both kinds have one order and strings another, and no number is ordered with a string.
That an integer and a floating-point number are compared roughly does no harm to the order: it is
transitive, and it never turns round the order of the exact numbers.

Main statements:
* `compareNumbers?_eq_some_iff`: values that are numbers have the order of these numbers;
* `compare?_lt_trans`: to be less is transitive, whatever the kinds are;
* `compare?_integer_float`: what the comparison of an integer and a floating-point number tells
  about the two as exact numbers.
-/
import TemplateExpr.Proofs.Numbers.Comparison
import TemplateExpr.Value.Equality

namespace TemplateExpr

/-- The number as a value. -/
def Number.value : Number → Value
  | .integer n => .integer n
  | .float x _ => .float x

namespace Value

variable {a b c : Value} {o : Ordering}

/-! ## Values as numbers -/

/-- The number that the value is, if it has a place in the order of numbers. -/
def number? : Value → Option Number
  | .integer n => some (.integer n)
  | .float x => if h : x.isNaN = false then some (.float x h) else none
  | _ => none

/-- An integer has a place in the order of numbers. -/
theorem number?_integer (n : Int64) : (integer n).number? = some (.integer n) := rfl

/-- A binary64 number that is no NaN has a place in the order of numbers. -/
theorem number?_float {x : Binary64} (h : x.isNaN = false) :
    (float x).number? = some (.float x h) := by
  rw [number?, dif_pos h]

/-- A NaN has no place in the order of numbers. -/
theorem number?_nan {x : Binary64} (h : x.isNaN = true) : (float x).number? = none := by
  rw [number?, dif_neg (by simp [h])]

/-- A value has the place of the number that it is. -/
theorem number?_eq_some_iff {p : Number} : a.number? = some p ↔ a = p.value := by
  constructor
  · intro h
    cases a with
    | integer n =>
      obtain rfl := Option.some.inj h
      rfl
    | float x =>
      rw [number?] at h
      split at h
      · obtain rfl := Option.some.inj h
        rfl
      · cases h
    | _ => cases h
  · rintro rfl
    cases p with
    | integer n => rfl
    | float x ordered => exact number?_float ordered

/-- An integer is compared with a binary64 number unless that is a NaN. -/
theorem compareNumbers?_integer_float (n : Int64) (x : Binary64) :
    compareNumbers? (.integer n) (.float x) =
      (float x).number?.map (Number.integer n).compare := by
  rw [compareNumbers?]
  cases hx : x.isNaN with
  | true => rw [number?_nan hx, Binary64.compareInt?_nan hx, Option.map_none]
  | false =>
    rw [number?_float hx, Option.map_some, Number.compare_of_integer (.inl rfl),
      Binary64.compareInt?_eq_compare n hx]
    rfl

/-- Every integer lies between the two infinities. -/
theorem compareNumbers?_integer_infinite (n : Int64) {x : Binary64} (h : x.isNaN = false)
    (hfinite : x.isFinite = false) :
    compareNumbers? (.integer n) (.float x) = some (if x.negative then .gt else .lt) :=
  Binary64.compareInt?_of_decimal?_eq_none n h (Binary64.decimal?_of_not_isFinite hfinite)

/-- Which of the numbers comes first only turns the order around. -/
theorem compareNumbers?_float_integer (x : Binary64) (n : Int64) :
    compareNumbers? (.float x) (.integer n) =
      (compareNumbers? (.integer n) (.float x)).map Ordering.swap :=
  Binary64.compareToInt?_eq_map_swap x n.toInt

/-- Values that are numbers have the order of these numbers, and other values have none. -/
theorem compareNumbers?_eq (a b : Value) :
    compareNumbers? a b = a.number?.bind fun p => b.number?.map p.compare := by
  cases a with
  | integer m =>
    cases b with
    | integer n =>
      rw [number?_integer, number?_integer, Option.bind_some, Option.map_some,
        Number.compare_of_integer (.inl rfl), Number.rough, Number.rough, compare_intCast]
      rfl
    | float y => rw [compareNumbers?_integer_float, number?_integer, Option.bind_some]
    | _ => rfl
  | float x =>
    cases hx : x.isNaN with
    | true =>
      rw [number?_nan hx, Option.bind_none]
      cases b with
      | integer n =>
        rw [compareNumbers?_float_integer, compareNumbers?, Binary64.compareInt?_nan hx,
          Option.map_none]
      | float y => rw [compareNumbers?, Binary64.compare?, if_pos (by rw [hx, Bool.true_or])]
      | _ => rfl
    | false =>
      rw [number?_float hx, Option.bind_some]
      cases b with
      | integer n =>
        rw [compareNumbers?_float_integer, compareNumbers?_integer_float, number?_float hx,
          number?_integer, Option.map_some, Option.map_some, Option.map_some, Number.compare_swap]
      | float y =>
        cases hy : y.isNaN with
        | true =>
          rw [number?_nan hy, compareNumbers?, Binary64.compare?,
            if_pos (by rw [hy, Bool.or_true]), Option.map_none]
        | false =>
          rw [number?_float hy, Option.map_some, Number.compare_of_floats rfl rfl]
          exact Binary64.compare?_eq_compare hx hy
      | _ => rfl
  | _ => cases b <;> rfl

/-- Two values are compared if both have a place in the order of numbers. -/
theorem compareNumbers?_eq_some_iff :
    compareNumbers? a b = some o ↔
      ∃ p q, a.number? = some p ∧ b.number? = some q ∧ p.compare q = o := by
  simp [compareNumbers?_eq, Option.bind_eq_some_iff]

/-- Two numbers have one order both ways round. -/
theorem compareNumbers?_swap (a b : Value) :
    (compareNumbers? a b).map Ordering.swap = compareNumbers? b a := by
  rw [compareNumbers?_eq, compareNumbers?_eq]
  cases a.number? with
  | none => cases b.number? <;> rfl
  | some p =>
    cases b.number? with
    | none => rfl
    | some q => exact congrArg some (Number.compare_swap p q)

/-- A number equals what is the same number. -/
theorem equals_of_isNumber (h : a.isNumber = true) : a.equals b = sameNumber a b := by
  cases a with
  | integer n => cases b <;> rfl
  | float x => cases b <;> rfl
  | _ => cases h

/-- Numbers are equal in expressions if neither is less. -/
theorem equals_of_compareNumbers? (h : compareNumbers? a b = some o) : a.equals b = o.isEq := by
  rw [equals_of_isNumber (isNumber_of_compareNumbers? h).1, sameNumber, h]
  cases o <;> rfl

/-! ## Strings -/

/-- Which of the texts comes first only turns the order around. -/
theorem compareText_swap (s t : String) : (compareText s t).swap = compareText t s := by
  unfold compareText
  exact Std.OrientedOrd.eq_swap.symm

/-- Two texts are at the same place in the order only if they are the same text. -/
theorem compareText_eq_iff {s t : String} : compareText s t = .eq ↔ s = t := by
  unfold compareText utf8Bytes
  rw [Std.LawfulEqOrd.compare_eq_iff_eq]
  constructor
  · intro h
    exact String.toByteArray_inj.1 (ByteArray.ext (Array.toList_inj.1 h))
  · rintro rfl
    rfl

/-! ## Transitivity -/

/-- Two values have an order as strings or as numbers. -/
theorem compare?_eq_some_iff :
    compare? a b = some o ↔
      (∃ s t, a = .string s ∧ b = .string t ∧ compareText s t = o) ∨
        compareNumbers? a b = some o := by
  cases a with
  | string s => cases b <;> simp [compare?, compareNumbers?]
  | _ => simp [compare?]

/-- A text before a second one is before all those behind that one. -/
theorem compareText_lt_trans {s t u : String} (hst : compareText s t = .lt)
    (htu : compareText t u = .lt) : compareText s u = .lt := by
  unfold compareText at hst htu ⊢
  exact Std.TransCmp.lt_trans hst htu

/-- To be less is transitive, whatever the kinds are. -/
theorem compare?_lt_trans (hab : a.compare? b = some .lt) (hbc : b.compare? c = some .lt) :
    a.compare? c = some .lt := by
  rw [compare?_eq_some_iff] at hab hbc ⊢
  rcases hab with ⟨s, t, rfl, rfl, hst⟩ | hab
  · rcases hbc with ⟨t', u, ht, rfl, htu⟩ | hbc
    · obtain rfl : t = t' := by simpa using ht
      exact .inl ⟨s, u, rfl, rfl, compareText_lt_trans hst htu⟩
    · simp [compareNumbers?] at hbc
  · rcases hbc with ⟨t, u, rfl, rfl, htu⟩ | hbc
    · simp [compareNumbers?] at hab
    · right
      rw [compareNumbers?_eq_some_iff] at hab hbc ⊢
      obtain ⟨p, q, ha, hb, hpq⟩ := hab
      obtain ⟨q', r, hb', hc, hqr⟩ := hbc
      obtain rfl : q = q' := by simpa [hb] using hb'
      exact ⟨p, r, ha, hc, Number.compare_lt_trans hpq hqr⟩

/-- The smallest number above zero, an integer that no floating-point number is, and a number too
large for a decimal. -/
theorem compare?_lt_trans_mixed :
    compare? (.float ⟨0x0000000000000001⟩) (.integer 9007199254740993) = some .lt ∧
      compare? (.integer 9007199254740993) (.float ⟨0x45f0000000000000⟩) = some .lt ∧
      compare? (.float ⟨0x0000000000000001⟩) (.float ⟨0x45f0000000000000⟩) = some .lt := by
  have hlow : compare? (.float ⟨0x0000000000000001⟩) (.integer 9007199254740993) = some .lt := by
    decide +kernel
  have hhigh : compare? (.integer 9007199254740993) (.float ⟨0x45f0000000000000⟩) = some .lt := by
    decide +kernel
  exact ⟨hlow, hhigh, compare?_lt_trans hlow hhigh⟩

/-! ## Integers beside floating-point numbers -/

/-- An integer and a floating-point number have the same order both ways round and are equal if
neither is less.  The comparison does not turn round the order of the exact numbers, takes no two
numbers for one that are one or more apart, and is exact for whole numbers and infinities. -/
theorem compare?_integer_float (i : Int64) {x : Binary64} (h : x.isNaN = false) :
    ∃ o, compare? (.integer i) (.float x) = some o ∧
      compare? (.float x) (.integer i) = some o.swap ∧
      equals (.integer i) (.float x) = o.isEq ∧ equals (.float x) (.integer i) = o.isEq ∧
      (x.isFinite = true →
        ((i.toInt : ℚ) < x.toRat → o ≠ .gt) ∧ (x.toRat < i.toInt → o ≠ .lt) ∧
        (o = .eq → |(i.toInt : ℚ) - x.toRat| < 1) ∧
        ∀ z : Int, x.toRat = z → o = compare i.toInt z) ∧
      (x.isFinite = false → o = if x.negative then .gt else .lt) := by
  have hcompare : compareNumbers? (.integer i) (.float x) =
      some ((Number.integer i).compare (.float x h)) := by
    rw [compareNumbers?_integer_float, number?_float h, Option.map_some]
  have hswap : compareNumbers? (.float x) (.integer i) =
      some ((Number.integer i).compare (.float x h)).swap := by
    rw [compareNumbers?_float_integer, hcompare, Option.map_some]
  refine ⟨_, hcompare, hswap, equals_of_compareNumbers? hcompare, ?_, fun _ => ?finite, ?infinite⟩
  · rw [equals_of_compareNumbers? hswap, Ordering.isEq_swap]
  case finite => exact Number.compare_integer i (.float x h)
  case infinite =>
    intro hfinite
    rw [compareNumbers?_integer_infinite i h hfinite, Option.some_inj] at hcompare
    exact hcompare.symm

/-- An integer that no floating-point number is, beside the floating-point number nearest to it. -/
theorem compare?_integer_float_large :
    compare? (.integer 9007199254740993) (.float ⟨0x4340000000000000⟩) = some .gt ∧
      equals (.float ⟨0x4340000000000000⟩) (.integer 9007199254740993) = false := by
  obtain ⟨o, hcompare, -, -, hequals, hfinite, -⟩ :=
    compare?_integer_float 9007199254740993 (x := ⟨0x4340000000000000⟩) (by decide)
  obtain rfl : o = .gt := by
    rw [(hfinite (by decide)).2.2.2 9007199254740992
      ((Binary64.toRat_eq_intCast_iff _ _).2 (by decide +kernel))]
    decide
  exact ⟨hcompare, hequals⟩

end Value

end TemplateExpr
