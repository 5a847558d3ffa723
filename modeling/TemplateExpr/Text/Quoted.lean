/-
# Quoted text

Text is shown between quotes with every character visible.  The quote in use and the backslash
get a backslash, the common control characters their letter, and a character that would not show
by itself (one that is not printable or that joins the character before it) its code point in
hexadecimal.

Main statements:
* `escape_of_plain`: any other character stands for itself.
-/
import TemplateExpr.Text.ExtendingMark
import TemplateExpr.Text.Printable

namespace TemplateExpr

namespace Text

/-- A code point in hexadecimal, between braces. -/
def codePointEscape (c : Char) : List Char :=
  ['\\', 'u', '\x7b'] ++ Nat.toDigits 16 c.toNat ++ ['\x7d']

/-- The characters that show `c` between quotes of the given kind. -/
def escape (quote c : Char) : List Char :=
  if c = quote ∨ c = '\\' then ['\\', c]
  else if c = '\x00' then ['\\', '0']
  else if c = '\t' then ['\\', 't']
  else if c = '\n' then ['\\', 'n']
  else if c = '\x0d' then ['\\', 'r']
  else if isExtendingMark c || !isPrintable c then codePointEscape c
  else [c]

/-- A printable character that joins no other and is neither the quote nor the backslash stands
for itself. -/
theorem escape_of_plain {quote c : Char} (hq : c ≠ quote) (hb : c ≠ '\\')
    (he : isExtendingMark c = false) (hp : isPrintable c = true) : escape quote c = [c] := by
  have h0 : c ≠ '\x00' := by rintro rfl; simp [isPrintable] at hp
  have ht : c ≠ '\t' := by rintro rfl; simp [isPrintable] at hp
  have hn : c ≠ '\n' := by rintro rfl; simp [isPrintable] at hp
  have hr : c ≠ '\x0d' := by rintro rfl; simp [isPrintable] at hp
  simp [escape, hq, hb, h0, ht, hn, hr, he, hp]

/-- Characters between quotes of the given kind. -/
def quoteWith (quote : Char) (cs : List Char) : String :=
  String.ofList (quote :: cs.flatMap (escape quote) ++ [quote])

/-- Text between double quotes. -/
def quoted (s : String) : String := quoteWith '\x22' s.toList

/-- One character between single quotes. -/
def quotedChar (c : Char) : String := quoteWith '\x27' [c]

end Text

end TemplateExpr
