/-
# The order of strings

Strings are compared by their bytes, and that is the order of their code points.  To be less is a
strict total order on strings: of two different ones exactly one is less, and a string is less than
every other one that begins with it.

Main statements:
* `holds_less_string_iff`: what the operator says;
* `compare_append_left`, `codePoints_append`: what is behind a common beginning;
* `string_order_by_codePoints`: the order of strings.
-/
import Mathlib.Order.Defs.Unbundled
import TemplateExpr.Proofs.Evaluation.Comparisons
import TemplateExpr.Proofs.Text.Encoding

namespace TemplateExpr

/-! ## Texts behind each other -/

namespace Text

theorem codePoints_append (s t : String) : codePoints (s ++ t) = codePoints s ++ codePoints t := by
  rw [codePoints, String.toList_append, List.map_append]
  rfl

theorem codePoints_eq_nil_iff {s : String} : codePoints s = [] ↔ s = "" := by
  rw [codePoints, List.map_eq_nil_iff, String.toList_eq_nil_iff]

/-- Behind a common beginning the rest decides. -/
theorem compare_append_left (front xs ys : List Nat) :
    compare (front ++ xs) (front ++ ys) = compare xs ys := by
  induction front with
  | nil => rfl
  | cons n front ih =>
    rw [List.cons_append, List.cons_append, List.compare_cons_cons, ih, Nat.compare_eq_eq.2 rfl]
    rfl

theorem compareText_append_eq_lt_iff (s t : String) : compareText s (s ++ t) = .lt ↔ t ≠ "" := by
  have hrest : compareText s (s ++ t) = compare [] (codePoints t) := by
    rw [compareText_eq_compare_codePoints, codePoints_append]
    simpa using compare_append_left (codePoints s) [] (codePoints t)
  rw [hrest, Ne, ← codePoints_eq_nil_iff]
  cases codePoints t <;> simp

end Text

/-! ## Strings as values -/

namespace Value

variable {s t : String}

theorem holds_less_string_iff :
    Holds (.string s) .less (.string t) ↔ compareText s t = .lt := by
  have hanswer := compareWith_of_compare? (a := .string s) (b := .string t) rfl .less
  unfold Holds
  rw [hanswer]
  cases compareText s t <;> decide

theorem isStrictTotalOrder_string :
    IsStrictTotalOrder String fun s t => Holds (.string s) .less (.string t) where
  irrefl s := by
    have hself : compareText s s = .eq := compareText_eq_iff.2 rfl
    simp [holds_less_string_iff, hself]
  trans s t u := by
    simp only [holds_less_string_iff]
    exact compareText_lt_trans
  trichotomous s t := by
    simp only [holds_less_string_iff]
    intro hst hts
    have hswap := compareText_swap s t
    cases h : compareText s t with
    | lt => exact absurd h hst
    | eq => exact compareText_eq_iff.1 h
    | gt =>
      rw [h] at hswap
      exact absurd hswap.symm hts

/-- Strings are compared by their UTF-8 bytes, which is the order of their code points, and two are
equal in it if they are the same.  To be less is a strict total order, in which a string stands
before what it is the beginning of. -/
theorem string_order_by_codePoints :
    (∀ s t : String,
      compare? (.string s) (.string t) = some (compare (utf8Bytes s) (utf8Bytes t)) ∧
      compare (utf8Bytes s) (utf8Bytes t) = compare (Text.codePoints s) (Text.codePoints t) ∧
      (compare? (.string s) (.string t) = some .eq ↔ s = t)) ∧
    (IsStrictTotalOrder String fun s t => Holds (.string s) .less (.string t)) ∧
    ∀ s t : String, Holds (.string s) .less (.string (s ++ t)) ↔ t ≠ "" := by
  refine ⟨fun s t => ⟨rfl, ?_, ?_⟩, isStrictTotalOrder_string, fun s t => ?_⟩
  · exact Text.compareText_eq_compare_codePoints s t
  · rw [← compareText_eq_iff]
    exact Option.some_inj
  · rw [holds_less_string_iff]
    exact Text.compareText_append_eq_lt_iff s t

end Value

end TemplateExpr
