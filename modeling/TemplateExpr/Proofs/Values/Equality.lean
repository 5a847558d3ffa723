/-
# Equality of values

Equality is the same both ways round, and only a NaN keeps a value from equalling itself.  But a
floating-point number equals the integer that it counts as beside integers, which several of them
can do.  So an integer may equal two floating-point numbers that differ from each other; this is how
equality can fail to be transitive, and there is no other way.  Nor is there another way in which
equal values can fail to be identical than an integer in the place of a floating-point number.

Main statements:
* `equals_comm_and_self_iff`: equality is symmetric, and reflexive without NaNs;
* `equals_trans_iff`: when two values that equal a third one are equal;
* `not_equals_trans`: equality is not transitive, not even without NaNs;
* `identical_refines_equals`: how equality and identity differ.
-/
import TemplateExpr.Proofs.Values.Order
import TemplateExpr.Proofs.Values.Places

namespace TemplateExpr

namespace Value

variable {a b c : Value}

/-! ## Equal numbers -/

theorem onNumbers_sameNumber : OnNumbers sameNumber := fun _ _ h =>
  isNumber_of_compareNumbers? (beq_iff_eq.1 h)

theorem sameNumber_iff :
    sameNumber a b = true ↔
      ∃ p q, a.number? = some p ∧ b.number? = some q ∧ p.compare q = .eq := by
  rw [sameNumber, beq_iff_eq, compareNumbers?_eq_some_iff]

theorem sameNumber_comm (a b : Value) : sameNumber a b = sameNumber b a := by
  have hswap : compareNumbers? a b = some .eq ↔ compareNumbers? b a = some .eq := by
    rw [← compareNumbers?_swap a b]
    cases compareNumbers? a b with
    | none => simp
    | some o => cases o <;> simp
  rw [sameNumber, sameNumber, Bool.eq_iff_iff, beq_iff_eq, beq_iff_eq, hswap]

/-- A number has its own value, unless it is a NaN. -/
theorem sameNumber_self_iff (h : a.isNumber = true) :
    sameNumber a a = true ↔ ∀ x, a = .float x → x.isNaN = false := by
  cases a with
  | integer n =>
    have heq : compareNumbers? (.integer n) (.integer n) = some .eq :=
      congrArg some Std.ReflOrd.compare_self
    simp [sameNumber, heq]
  | float x =>
    rw [sameNumber, compareNumbers?, beq_iff_eq]
    constructor
    · rintro hx y ⟨⟩
      rw [Bool.eq_false_iff]
      intro hnan
      rw [(Binary64.compare?_eq_none_iff x x).2 (.inl hnan)] at hx
      cases hx
    · exact fun hx => Binary64.compare?_self (hx x rfl)
  | _ => cases h

/-! ## Symmetry and reflexivity -/

/-- Equality is the same both ways round, and a value equals itself unless there is a NaN somewhere
in it. -/
theorem equals_comm_and_self_iff (a b : Value) :
    a.equals b = b.equals a ∧ (a.equals a = true ↔ ¬ a.HasNaN) := by
  refine ⟨alike_comm onNumbers_sameNumber sameNumber_comm a b, ?_⟩
  show alike sameNumber a a = true ↔ _
  rw [alike_self_iff onNumbers_sameNumber]
  constructor
  · rintro h ⟨path, x, hx, hnan⟩
    have hfalse := (sameNumber_self_iff rfl).1 (h path (.float x) hx rfl) x rfl
    rw [hnan] at hfalse
    cases hfalse
  · intro h path u hu hnumber
    rw [sameNumber_self_iff hnumber]
    rintro x rfl
    rw [Bool.eq_false_iff]
    exact fun hnan => h ⟨path, x, hu, hnan⟩

/-! ## Transitivity -/

/-- Two values that equal a third one are equal, unless somewhere in them two floating-point
numbers differ where an integer stands in the third one. -/
theorem equals_trans_iff (hab : a.equals b = true) (hbc : b.equals c = true) :
    a.equals c = true ↔
      ∀ path x n y, a.at? path = some (.float x) → b.at? path = some (.integer n) →
        c.at? path = some (.float y) → Binary64.sameNumber x y = true := by
  constructor
  · intro hac path x n y hx _ hy
    obtain ⟨w, hw, hxw⟩ := alike_at onNumbers_sameNumber hac hx
    obtain rfl : w = .float y := Option.some.inj (hw.symm.trans hy)
    exact hxw
  · intro hfloats
    refine alike_comp onNumbers_sameNumber onNumbers_sameNumber hab hbc ?_
    intro path u v w hu hv hw huv hvw
    rw [sameNumber_iff] at huv hvw ⊢
    obtain ⟨p, q, hp, hq, hpq⟩ := huv
    obtain ⟨q', r, hq', hr, hqr⟩ := hvw
    obtain rfl : q = q' := Option.some.inj (hq.symm.trans hq')
    refine ⟨p, r, hp, hr, (Number.compare_eq_trans_iff hpq hqr).2 fun hpf hqf hrf => ?_⟩
    -- only through an integer between two floating-point numbers can likeness be lost
    obtain ⟨x, hx, rfl⟩ := Number.exists_float hpf
    obtain ⟨n, rfl⟩ := Number.exists_integer hqf
    obtain ⟨y, hy, rfl⟩ := Number.exists_float hrf
    obtain rfl := number?_eq_some_iff.1 hp
    obtain rfl := number?_eq_some_iff.1 hq
    obtain rfl := number?_eq_some_iff.1 hr
    exact (Binary64.sameNumber_iff hx hy).1 (hfloats path x n y hu hv hw)

/-- One and the next floating-point number are different items where both equal the item one. -/
theorem equals_trans_iff_next :
    (list [.nil, .float ⟨0x3ff0000000000000⟩]).equals
      (list [.nil, .float ⟨0x3ff0000000000001⟩]) = false := by
  have hab : (list [.nil, .float ⟨0x3ff0000000000000⟩]).equals (list [.nil, .integer 1]) = true := by
    decide +kernel
  have hbc : (list [.nil, .integer 1]).equals (list [.nil, .float ⟨0x3ff0000000000001⟩]) = true := by
    decide +kernel
  rw [Bool.eq_false_iff]
  intro hac
  have hsame := (equals_trans_iff hab hbc).1 hac [.item 1] _ _ _ rfl rfl rfl
  revert hsame
  decide

/-- One and the next floating-point number both equal the integer one. -/
theorem not_equals_trans :
    ¬ ∀ a b c : Value, ¬ a.HasNaN → ¬ b.HasNaN → ¬ c.HasNaN → a.equals b = true →
      b.equals c = true → a.equals c = true := by
  intro h
  have hac := h (.float ⟨0x3ff0000000000000⟩) (.integer 1) (.float ⟨0x3ff0000000000001⟩)
    (not_hasNaN_float (by decide)) (not_hasNaN_integer 1) (not_hasNaN_float (by decide))
    (by decide +kernel) (by decide +kernel)
  revert hac
  decide +kernel

/-! ## Identical values -/

theorem onNumbers_sameNumberOfKind : OnNumbers sameNumberOfKind := by
  intro a b h
  cases a <;> cases b <;> first | exact ⟨rfl, rfl⟩ | cases h

/-- Numbers are identical if they have one value and one kind. -/
theorem sameNumberOfKind_iff :
    sameNumberOfKind a b = true ↔ sameNumber a b = true ∧ a.kind = b.kind := by
  constructor
  · intro h
    cases a with
    | integer m =>
      cases b with
      | integer n =>
        obtain rfl : m = n := beq_iff_eq.1 h
        exact ⟨(sameNumber_self_iff rfl).2 (fun x hx => by cases hx), rfl⟩
      | _ => cases h
    | float x =>
      cases b with
      | float y => exact ⟨h, rfl⟩
      | _ => cases h
    | _ => cases b <;> cases h
  · rintro ⟨h, hkind⟩
    obtain ⟨ha, hb⟩ := onNumbers_sameNumber a b h
    cases a with
    | integer m =>
      cases b with
      | integer n =>
        rw [sameNumber, compareNumbers?, beq_iff_eq, Option.some_inj, compare_eq_iff_eq] at h
        exact beq_iff_eq.2 (Int64.toInt_inj.1 h)
      | _ => cases hkind
    | float x =>
      cases b with
      | float y => exact h
      | _ => cases hkind
    | _ => cases ha

/-- Somewhere one of the values has an integer and the other one a floating-point number. -/
def MixesKinds (a b : Value) : Prop :=
  ∃ path n x,
    (a.at? path = some (.integer n) ∧ b.at? path = some (.float x)) ∨
      (a.at? path = some (.float x) ∧ b.at? path = some (.integer n))

theorem mixesKinds_of_kind_ne {u v : Value} {path : List Step} (hu : a.at? path = some u)
    (hv : b.at? path = some v) (hnumbers : u.isNumber = true ∧ v.isNumber = true)
    (hkind : u.kind ≠ v.kind) : MixesKinds a b := by
  obtain ⟨hu', hv'⟩ := hnumbers
  cases u with
  | integer n =>
    cases v with
    | integer m => exact absurd rfl hkind
    | float x => exact ⟨path, n, x, .inl ⟨hu, hv⟩⟩
    | _ => cases hv'
  | float x =>
    cases v with
    | integer n => exact ⟨path, n, x, .inr ⟨hu, hv⟩⟩
    | float y => exact absurd rfl hkind
    | _ => cases hv'
  | _ => cases hu'

/-- Identical values are equal, and equal values are not identical just if somewhere an integer
stands for a floating-point number. -/
theorem identical_refines_equals (a b : Value) :
    (a.identical b = true → a.equals b = true) ∧
      (a.equals b = true → (¬ a.identical b = true ↔ MixesKinds a b)) := by
  constructor
  · intro h
    exact alike_imp onNumbers_sameNumberOfKind h fun _ _ _ _ _ hsame =>
      (sameNumberOfKind_iff.1 hsame).1
  · intro h
    constructor
    · intro hne
      by_contra hkinds
      apply hne
      refine alike_imp onNumbers_sameNumber h fun path u v hu hv hsame => ?_
      refine sameNumberOfKind_iff.2 ⟨hsame, ?_⟩
      by_contra hkind
      exact hkinds (mixesKinds_of_kind_ne hu hv (onNumbers_sameNumber u v hsame) hkind)
    · rintro ⟨path, n, x, ⟨ha, hb⟩ | ⟨ha, hb⟩⟩ hidentical
      · obtain ⟨v, hv, halike⟩ := alike_at onNumbers_sameNumberOfKind hidentical ha
        obtain rfl : v = .float x := Option.some.inj (hv.symm.trans hb)
        cases halike
      · obtain ⟨v, hv, halike⟩ := alike_at onNumbers_sameNumberOfKind hidentical ha
        obtain rfl : v = .integer n := Option.some.inj (hv.symm.trans hb)
        cases halike

/-- The two zeros are identical, and in a map a whole number in place of an integer is equal. -/
theorem identical_refines_equals_entry :
    (float ⟨0x0000000000000000⟩).equals (.float ⟨0x8000000000000000⟩) = true ∧
      MixesKinds (map ⟨["k"], List.pairwise_singleton _ _, fun _ => .list [.nil, .integer 1]⟩)
        (map ⟨["k"], List.pairwise_singleton _ _,
          fun _ => .list [.nil, .float ⟨0x3ff0000000000000⟩]⟩) := by
  have hequals :
      (map ⟨["k"], List.pairwise_singleton _ _, fun _ => .list [.nil, .integer 1]⟩).equals
        (map ⟨["k"], List.pairwise_singleton _ _,
          fun _ => .list [.nil, .float ⟨0x3ff0000000000000⟩]⟩) = true := by
    decide +kernel
  refine ⟨(identical_refines_equals _ _).1 (by decide +kernel),
    ((identical_refines_equals _ _).2 hequals).1 (by decide +kernel)⟩

end Value

end TemplateExpr
