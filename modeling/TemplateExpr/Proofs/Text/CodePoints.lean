/-
# Code points

A string is the sequence of its code points, and the order of strings is that of these sequences:
the first difference decides, and a beginning stands before what it begins.

Main statements:
* `codePoints_lt_iff`: strings and their code points have the same order.
-/
namespace TemplateExpr

namespace Text

/-- The code points of a string. -/
def codePoints (s : String) : List Nat := s.toList.map Char.toNat

theorem map_toNat_lt_iff {cs ds : List Char} :
    cs.map Char.toNat < ds.map Char.toNat ↔ cs < ds := by
  induction cs generalizing ds with
  | nil => cases ds <;> simp
  | cons c cs ih =>
    cases ds with
    | nil => simp
    | cons d ds =>
      rw [List.map_cons, List.map_cons, List.cons_lt_cons_iff, List.cons_lt_cons_iff, ih,
        Char.toNat_inj]
      -- characters are compared as numbers
      rfl

/-- Strings stand in the order of their code points. -/
theorem codePoints_lt_iff {s t : String} : codePoints s < codePoints t ↔ s < t :=
  map_toNat_lt_iff

end Text

end TemplateExpr
