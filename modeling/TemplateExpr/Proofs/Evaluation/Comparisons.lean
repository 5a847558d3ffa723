/-
# Comparison operators

What the six operators say about two values is one thing: which of the two is less, if they are two
strings or two numbers.  Equality is always answered, the four others only for values that have an
order, and beside a NaN none of them holds.

Main statements:
* `compare?_eq_none_iff`: of two strings or two numbers only a NaN has no order;
* `compareWith_of_compare?`, `compareWith_of_unordered`: what all operators say, with an order and
  without one;
* `compareWith_coherent`: how the answers of the operators hang together.
-/
import TemplateExpr.Eval.Operators
import TemplateExpr.Proofs.Values.Order

namespace TemplateExpr

/-! ## Operators and orders -/

namespace Comparison

/-- The operator that asks for one order alone. -/
def ofOrdering : Ordering → Comparison
  | .lt => .less
  | .eq => .equal
  | .gt => .greater

/-- The operator that tells an order is the one of three that holds of it. -/
theorem eq_ofOrdering_iff (op : Comparison) (o : Ordering) :
    op = ofOrdering o ↔ op ∈ [Comparison.less, .equal, .greater] ∧ op.holds o = true := by
  cases op <;> cases o <;> decide

end Comparison

namespace Value

variable {a b : Value} {o : Ordering}

/-! ## Values with an order -/

/-- The value is a NaN. -/
def IsNaN (v : Value) : Prop := ∃ x, v = .float x ∧ x.isNaN = true

/-- Both values are strings, or both are numbers. -/
def Orderable (a b : Value) : Prop :=
  (a.kind = .string ∧ b.kind = .string) ∨
    (a.kind ∈ [Kind.integer, .float] ∧ b.kind ∈ [Kind.integer, .float])

/-- Numbers are of two kinds. -/
theorem isNumber_iff_kind : a.isNumber = true ↔ a.kind ∈ [Kind.integer, .float] := by
  cases a <;> simp [isNumber, kind]

/-- The values of the kind of strings are the strings. -/
theorem kind_eq_string_iff : a.kind = .string ↔ ∃ s, a = .string s := by
  cases a <;> simp [kind]

/-- Values are asked for their order if both are numbers or both are strings. -/
theorem hasOrderWith_iff : a.hasOrderWith b = true ↔ Orderable a b := by
  unfold Orderable
  rw [← isNumber_iff_kind, ← isNumber_iff_kind]
  cases a <;> cases b <;> simp [hasOrderWith, isNumber, kind]

/-- The numbers without a place in the order are the NaNs. -/
theorem number?_eq_none_iff (h : a.isNumber = true) : a.number? = none ↔ a.IsNaN := by
  cases a with
  | integer n => simp [number?_integer, IsNaN]
  | float x =>
    cases hx : x.isNaN with
    | true => simp [number?_nan hx, IsNaN, hx]
    | false => simp [number?_float hx, IsNaN, hx]
  | _ => cases h

/-- Values that are not both strings have no order but that of numbers. -/
theorem compare?_eq_compareNumbers? (h : ¬ (a.kind = .string ∧ b.kind = .string)) :
    compare? a b = compareNumbers? a b := by
  cases a with
  | string s =>
    cases b with
    | string t => exact absurd ⟨rfl, rfl⟩ h
    | _ => rfl
  | _ => rfl

/-- Of two strings or two numbers only a NaN has no order. -/
theorem compare?_eq_none_iff (h : Orderable a b) :
    compare? a b = none ↔ a.IsNaN ∨ b.IsNaN := by
  by_cases hstrings : a.kind = .string ∧ b.kind = .string
  · obtain ⟨s, rfl⟩ := kind_eq_string_iff.1 hstrings.1
    obtain ⟨t, rfl⟩ := kind_eq_string_iff.1 hstrings.2
    simp [compare?, IsNaN]
  · obtain ⟨ha, hb⟩ := h.resolve_left hstrings
    rw [← isNumber_iff_kind] at ha hb
    rw [compare?_eq_compareNumbers? hstrings, compareNumbers?_eq, ← number?_eq_none_iff ha,
      ← number?_eq_none_iff hb]
    cases a.number? <;> cases b.number? <;> simp

/-- Two values have one order both ways round. -/
theorem compare?_swap (a b : Value) : (compare? a b).map Ordering.swap = compare? b a := by
  by_cases h : a.kind = .string ∧ b.kind = .string
  · obtain ⟨s, rfl⟩ := kind_eq_string_iff.1 h.1
    obtain ⟨t, rfl⟩ := kind_eq_string_iff.1 h.2
    exact congrArg some (compareText_swap s t)
  · rw [compare?_eq_compareNumbers? h, compare?_eq_compareNumbers? fun h' => h h'.symm]
    exact compareNumbers?_swap a b

/-! ## Answers of the operators -/

/-- Values are equal if neither is less. -/
theorem equals_of_compare? (h : compare? a b = some o) : a.equals b = o.isEq := by
  rcases compare?_eq_some_iff.1 h with ⟨s, t, rfl, rfl, hst⟩ | h
  · show (s == t) = o.isEq
    rw [Bool.eq_iff_iff, beq_iff_eq, Ordering.isEq_iff_eq_eq, ← hst, compareText_eq_iff]
  · exact equals_of_compareNumbers? h

/-- Values that could have an order and have none are not equal. -/
theorem equals_of_unordered (hkinds : Orderable a b) (h : compare? a b = none) :
    a.equals b = false := by
  by_cases hstrings : a.kind = .string ∧ b.kind = .string
  · obtain ⟨s, rfl⟩ := kind_eq_string_iff.1 hstrings.1
    obtain ⟨t, rfl⟩ := kind_eq_string_iff.1 hstrings.2
    cases h
  · have ha := (hkinds.resolve_left hstrings).1
    rw [compare?_eq_compareNumbers? hstrings] at h
    rw [equals_of_isNumber (isNumber_iff_kind.2 ha), sameNumber, h]
    rfl

/-- Where the values have an order, an operator tells whether it is one of its own. -/
theorem compareWith_of_compare? (h : compare? a b = some o) (op : Comparison) :
    a.compareWith op b = .ok (op.holds o) := by
  have hequals := equals_of_compare? h
  have hkinds := hasOrderWith_of_compare? h
  cases op with
  | equal => exact congrArg Except.ok hequals
  | notEqual =>
    show Except.ok (!a.equals b) = .ok o.isNe
    rw [hequals]
    cases o <;> rfl
  | _ => simp [compareWith, hkinds, h]

/-- Where two strings or two numbers have no order, no more than inequality holds. -/
theorem compareWith_of_unordered (hkinds : Orderable a b) (h : compare? a b = none)
    (op : Comparison) : a.compareWith op b = .ok (op == .notEqual) := by
  have hequals := equals_of_unordered hkinds h
  rw [← hasOrderWith_iff] at hkinds
  cases op with
  | equal => exact congrArg Except.ok hequals
  | notEqual =>
    show Except.ok (!a.equals b) = .ok true
    rw [hequals]
    rfl
  | _ =>
    simp only [compareWith, hkinds, h]
    rfl

/-- Values of other kinds are refused by the operators that ask for an order. -/
theorem compareWith_of_not_orderable (hkinds : ¬ Orderable a b) {op : Comparison}
    (hop : op.asksEquality = false) :
    a.compareWith op b = .error (.mismatch (.compare op) (.inapplicable a.kind b.kind)) := by
  rw [← hasOrderWith_iff, Bool.not_eq_true] at hkinds
  cases op with
  | equal => cases hop
  | notEqual => cases hop
  | _ => simp only [compareWith, hkinds]; rfl

/-! ## Coherence -/

/-- The comparison is answered, and it holds. -/
def Holds (a : Value) (op : Comparison) (b : Value) : Prop := a.compareWith op b = .ok true

/-- Whether two values could have an order does not depend on which comes first. -/
theorem Orderable.symm (h : Orderable a b) : Orderable b a :=
  h.imp And.symm And.symm

/-- Two strings or two numbers have one answer for every operator, from both sides. -/
theorem compareWith_cases (hkinds : Orderable a b) :
    (∃ o, compare? a b = some o ∧ (∀ op, a.compareWith op b = .ok (op.holds o)) ∧
        ∀ op, b.compareWith op a = .ok (op.holds o.swap)) ∨
      compare? a b = none ∧ (∀ op, a.compareWith op b = .ok (op == .notEqual)) ∧
        ∀ op, b.compareWith op a = .ok (op == .notEqual) := by
  have hswap := compare?_swap a b
  cases h : compare? a b with
  | none =>
    rw [h, Option.map_none] at hswap
    exact .inr ⟨rfl, compareWith_of_unordered hkinds h,
      compareWith_of_unordered hkinds.symm hswap.symm⟩
  | some o =>
    rw [h, Option.map_some] at hswap
    exact .inl ⟨o, rfl, compareWith_of_compare? h, compareWith_of_compare? hswap.symm⟩

/-- Equality and inequality are always answered, and one is the negation of the other.  The four
orders are answered for two strings and for two numbers, and refused for all other values as a
mismatch of their kinds.  Where they are answered, less and greater are the same from the two sides,
to be less or equal is to be less or to be equal, and exactly one of less, equal and greater holds;
but beside a NaN inequality alone holds. -/
theorem compareWith_coherent (a b : Value) :
    (∃ t, a.compareWith .equal b = .ok t ∧ a.compareWith .notEqual b = .ok (!t)) ∧
    (∀ op, op.asksEquality = false →
      (Orderable a b → ∃ t, a.compareWith op b = .ok t) ∧
      (¬ Orderable a b →
        a.compareWith op b = .error (.mismatch (.compare op) (.inapplicable a.kind b.kind)))) ∧
    (Orderable a b →
      (a.Holds .less b ↔ b.Holds .greater a) ∧
      (a.Holds .lessEqual b ↔ a.Holds .less b ∨ a.Holds .equal b) ∧
      (a.Holds .greaterEqual b ↔ b.Holds .lessEqual a) ∧
      (¬ a.IsNaN → ¬ b.IsNaN →
        ∃! op, op ∈ [Comparison.less, .equal, .greater] ∧ a.Holds op b) ∧
      (a.IsNaN ∨ b.IsNaN → ∀ op, op ≠ .notEqual → a.compareWith op b = .ok false)) := by
  refine ⟨⟨a.equals b, rfl, rfl⟩, fun op hop => ⟨fun hkinds => ?_, fun hkinds => ?_⟩,
    fun hkinds => ?_⟩
  · rcases compareWith_cases hkinds with ⟨o, -, hanswer, -⟩ | ⟨-, hanswer, -⟩
    · exact ⟨_, hanswer op⟩
    · exact ⟨_, hanswer op⟩
  · exact compareWith_of_not_orderable hkinds hop
  · have hnan := compare?_eq_none_iff hkinds
    unfold Holds
    rcases compareWith_cases hkinds with
      ⟨o, hcompare, hanswer, hanswer'⟩ | ⟨hnone, hanswer, hanswer'⟩
    · have hordered : ¬ (a.IsNaN ∨ b.IsNaN) := by
        rw [← hnan, hcompare]
        simp
      simp only [hanswer, hanswer', Except.ok.injEq]
      simp only [← Comparison.eq_ofOrdering_iff, existsUnique_eq]
      refine ⟨?converse, ?lessEqual, ?greaterEqual, fun _ _ => trivial,
        fun h => absurd h hordered⟩
      case converse | lessEqual | greaterEqual => cases o <;> decide
    · simp only [hanswer, hanswer', Except.ok.injEq]
      refine ⟨by decide, by decide, by decide, fun ha hb => ?_, fun _ op hop => ?_⟩
      · exact absurd (hnan.1 hnone) (not_or.2 ⟨ha, hb⟩)
      · exact beq_eq_false_iff_ne.2 hop

/-- An integer beside the power of two up to which numbers are decimals and beside an infinity, a
NaN beside an integer, and a string beside an integer. -/
theorem compareWith_coherent_mixed :
    (integer Int64.maxValue).compareWith .less (.float ⟨0x45f0000000000000⟩) = .ok true ∧
      (float ⟨0x45f0000000000000⟩).Holds .greater (.integer Int64.maxValue) ∧
      (integer Int64.minValue).Holds .greaterEqual (.float ⟨0xfff0000000000000⟩) ∧
      (float ⟨0x7ff8000000000000⟩).compareWith .lessEqual (.integer 0) = .ok false ∧
      (string "1").compareWith .less (.integer 1) =
        .error (.mismatch (.compare .less) (.inapplicable .string .integer)) := by
  have hless :
      (integer Int64.maxValue).compareWith .less (.float ⟨0x45f0000000000000⟩) = .ok true := by
    decide +kernel
  refine ⟨hless, ?greater, ?greaterEqual, ?nan, ?refused⟩
  case greater =>
    exact ((compareWith_coherent _ _).2.2 (.inr (by decide))).1.1 hless
  case greaterEqual =>
    refine ((compareWith_coherent _ _).2.2 (.inr (by decide))).2.2.1.2 ?_
    unfold Holds
    decide +kernel
  case nan =>
    exact ((compareWith_coherent _ _).2.2 (.inr (by decide))).2.2.2.2 (.inl ⟨_, rfl, by decide⟩) _
      (by decide)
  case refused =>
    refine ((compareWith_coherent _ _).2.1 .less rfl).2 ?_
    unfold Orderable
    decide

end Value

end TemplateExpr
