/-
# Equality of values

Two values are alike if they have the same shape and their numbers agree: lists item by item,
maps name by name.  What it means for numbers to agree is left open, since there are two answers:
in expressions an integer equals a floating-point number of the same value, whereas two
literals are identical only if their numbers are of one kind.

Main statements:
* `alikeItems_iff`, `alike_map_iff`: when lists and maps are alike.
-/
import TemplateExpr.Value.Order

namespace TemplateExpr

namespace Value

/-! ## Values of the same shape -/

mutual

/-- The values have the same shape and `same` holds of what stands in it, where neither nil,
booleans nor strings stand. -/
def alike (same : Value → Value → Bool) : Value → Value → Bool
  | .nil, .nil => true
  | .boolean a, .boolean b => a == b
  | .string s, .string t => s == t
  | .list as, .list bs => alikeItems same as bs
  | .map f, .map g => alikeFields same f g
  | a, b => same a b

/-- Two lists are alike item by item. -/
def alikeItems (same : Value → Value → Bool) : List Value → List Value → Bool
  | [], [] => true
  | a :: as, b :: bs => alike same a b && alikeItems same as bs
  | _, _ => false

/-- Two maps are alike if they have as many names and the second one has, under each name of the
first one, a value that is alike. -/
def alikeFields (same : Value → Value → Bool) : Fields Value → Fields Value → Bool
  | ⟨keys, _, get⟩, g =>
    decide (keys.length = g.size) &&
      decide (∀ i : Fin keys.length,
        (g.find? (keys.get i)).any (fun w => alike same (get i) w) = true)

end

/-- Lists are alike if they have the same length and are alike at every place. -/
theorem alikeItems_iff (same : Value → Value → Bool) (as bs : List Value) :
    alikeItems same as bs = true ↔
      as.length = bs.length ∧ ∀ p ∈ as.zip bs, alike same p.1 p.2 = true := by
  induction as generalizing bs with
  | nil => cases bs <;> simp [alikeItems]
  | cons a as ih =>
    cases bs with
    | nil => simp [alikeItems]
    | cons b bs =>
      simp only [alikeItems, Bool.and_eq_true, ih, List.length_cons, List.zip_cons_cons,
        List.forall_mem_cons, Nat.add_right_cancel_iff]
      exact ⟨fun ⟨h, hl, hs⟩ => ⟨hl, h, hs⟩, fun ⟨hl, h, hs⟩ => ⟨h, hl, hs⟩⟩

/-- Maps of one size are alike if each value of the first one has a value alike, under its name, in
the second one. -/
theorem alike_map_iff (same : Value → Value → Bool) (f g : Fields Value) :
    alike same (.map f) (.map g) = true ↔
      f.size = g.size ∧
        ∀ name v, f.find? name = some v →
          ∃ w, g.find? name = some w ∧ alike same v w = true := by
  have hkeys : alike same (.map f) (.map g) = true ↔ f.size = g.size ∧
      ∀ i, ∃ w, g.find? f.keys[i] = some w ∧ alike same (f.get i) w = true := by
    rw [alike, alikeFields, Bool.and_eq_true, decide_eq_true_iff, decide_eq_true_iff]
    simp only [Option.any_eq_true]
    rfl
  rw [hkeys]
  refine and_congr_right fun _ => ⟨fun h name v hv => ?_, fun h i => ?_⟩
  · obtain ⟨i, rfl, rfl⟩ := Fields.exists_key_of_find? hv
    exact h i
  · exact h f.keys[i] (f.get i) (f.find?_key i)

/-! ## Equality in expressions -/

/-- Two numbers have the same value, whatever their kinds. -/
def sameNumber (a b : Value) : Bool := compareNumbers? a b == some .eq

/-- The equality of expressions: numbers count by value, and values of unrelated kinds differ. -/
def equals (a b : Value) : Bool := alike sameNumber a b

/-! ## Identity of literals -/

/-- Two numbers of one kind have the same value. -/
def sameNumberOfKind : Value → Value → Bool
  | .integer m, .integer n => m == n
  | .float x, .float y => Binary64.sameNumber x y
  | _, _ => false

/-- Two values of the same kinds throughout, with the same contents; as numbers, the two zeros
are one, and a NaN differs from itself. -/
def identical (a b : Value) : Bool := alike sameNumberOfKind a b

end Value

end TemplateExpr
