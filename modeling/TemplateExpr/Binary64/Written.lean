/-
# Written forms of binary64 numbers

A number is written with the digits of its shortest decimal.  What remains to be decided is the
layout: whether a whole number ends in `.0`, and how far from the point the first digit may stand
before an exponent is written instead of zeros.  Messages use `Layout.plain`, dumps of
values use `Layout.dump`.
-/
import TemplateExpr.Binary64.Shortest

namespace TemplateExpr

namespace Binary64

/-! ## Layouts -/

/-- What a written form leaves open once the digits are known. -/
structure Layout where
  /-- What follows the digits of a whole number. -/
  wholeEnd : String
  /-- The lowest and the highest power of ten of the first digit that is written without an
  exponent; without bounds no exponent is ever written. -/
  positional : Option (Int × Int)

/-- All digits before and after the point, and no point in a whole number. -/
def Layout.plain : Layout := ⟨"", none⟩

/-- A whole number ends in `.0`, and numbers from `10 ^ 16` on and below `10 ^ -4` have an
exponent. -/
def Layout.dump : Layout := ⟨".0", some (-4, 15)⟩

/-- The power of ten of the first digit asks for no exponent. -/
def Layout.isPositional (l : Layout) (lead : Int) : Bool :=
  l.positional.all fun (low, high) => decide (low ≤ lead ∧ lead ≤ high)

/-! ## Digits with a point or an exponent -/

/-- The digits of `d * 10 ^ p`, with zeros up to the point where they do not reach it. -/
def positionalText (l : Layout) (digits : List Char) (p : Int) : String :=
  let after := (-p).toNat
  if after = 0 then
    String.ofList (digits ++ List.replicate p.toNat '0') ++ l.wholeEnd
  else
    let padded := List.replicate (after + 1 - digits.length) '0' ++ digits
    let before := padded.length - after
    String.ofList (padded.take before ++ '.' :: padded.drop before)

/-- One digit, the others behind a point, and the power of ten of the first. -/
def exponentText (digits : List Char) (lead : Int) : String :=
  let others := digits.drop 1
  let point := if others.isEmpty then [] else ['.']
  String.ofList (digits.take 1 ++ point ++ others) ++ "e" ++ toString lead

/-- The text of a number without its sign. -/
def unsignedText (l : Layout) (x : Binary64) : String :=
  if !x.isFinite then "inf"
  else if x.magnitude = 0 then "0" ++ l.wholeEnd
  else
    let (d, p) := x.shortest
    let digits := Nat.toDigits 10 d
    let lead := p + digits.length - 1
    if l.isPositional lead then positionalText l digits p else exponentText digits lead

/-- The text of a number. -/
def text (l : Layout) (x : Binary64) : String :=
  if x.isNaN then "NaN"
  else if x.negative then "-" ++ unsignedText l x
  else unsignedText l x

end Binary64

end TemplateExpr
