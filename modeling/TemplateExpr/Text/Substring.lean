/-
# Substrings

Whether a text occurs within another.

Main statements:
* `occursIn_iff`: there must be a text before and a text after it.
-/
namespace TemplateExpr

namespace Text

/-- The needle begins at some place of the text. -/
def occursIn (needle : List Char) : List Char → Bool
  | [] => needle.isEmpty
  | c :: cs => needle.isPrefixOf (c :: cs) || occursIn needle cs

theorem occursIn_iff (needle text : List Char) :
    occursIn needle text = true ↔ ∃ before after, text = before ++ needle ++ after := by
  induction text with
  | nil => simp [occursIn]
  | cons c cs ih =>
    simp only [occursIn, Bool.or_eq_true, List.isPrefixOf_iff_prefix, ih]
    constructor
    · rintro (⟨after, h⟩ | ⟨before, after, h⟩)
      · exact ⟨[], after, h.symm⟩
      · exact ⟨c :: before, after, by rw [h]; rfl⟩
    · rintro ⟨_ | ⟨d, before⟩, after, h⟩
      · exact .inl ⟨after, h.symm⟩
      · simp only [List.cons_append, List.cons.injEq] at h
        exact .inr ⟨before, after, h.2⟩

end Text

end TemplateExpr
