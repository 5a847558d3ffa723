/-
# The order of UTF-8

The UTF-8 form of a code point is a number written with digits of six bits: the first byte holds
the highest bits behind a mark, and each byte behind it holds one digit.  The mark tells how many
digits there are, and it is higher the more there are.  So two forms are in the order of their code
points from their first difference on, whatever is behind them, and neither is the beginning of
another one: the bytes of two strings are in the order of their code points.

Main statements:
* `compare_digitBytes_append`: forms with equally many bytes;
* `compare_encoding_append`: forms of any two code points, with more bytes behind them;
* `map_toNat_utf8Bytes`: the bytes of a string are the forms of its code points;
* `compareText_eq_compare_codePoints`: strings are in the order of their code points.
-/
import Mathlib.Algebra.Group.Nat.Defs
import Mathlib.Data.List.Basic
import TemplateExpr.Proofs.Text.CodePoints
import TemplateExpr.Value.Order

namespace TemplateExpr

namespace Text

/-! ## Digits of six bits -/

/-- The bytes of a number with so many digits behind its first byte. -/
def digitBytes (mark : Nat) : Nat → Nat → List Nat
  | 0, n => [mark + n]
  | digits + 1, n => digitBytes mark digits (n / 64) ++ [0x80 + n % 64]

/-- The first byte has the mark and the highest digit. -/
theorem exists_digitBytes_eq_cons (mark digits n : Nat) :
    ∃ bytes, digitBytes mark digits n = (mark + n / 64 ^ digits) :: bytes := by
  induction digits generalizing n with
  | zero =>
    refine ⟨[], ?_⟩
    rw [digitBytes, Nat.pow_zero, Nat.div_one]
  | succ digits ih =>
    obtain ⟨bytes, hbytes⟩ := ih (n / 64)
    refine ⟨bytes ++ [0x80 + n % 64], ?_⟩
    rw [digitBytes, hbytes, Nat.div_div_eq_div_mul, ← Nat.pow_succ']
    rfl

/-- What is added to both numbers does not change their order. -/
theorem compare_add_left (k n m : Nat) : compare (k + n) (k + m) = compare n m := by
  simp only [Nat.compare_eq_ite_lt, Nat.add_lt_add_iff_left]

/-- The last digit decides where the digits in front of it are the same. -/
theorem compare_eq_then_digit (n m : Nat) :
    compare n m = (compare (n / 64) (m / 64)).then (compare (n % 64) (m % 64)) := by
  rcases Nat.lt_trichotomy (n / 64) (m / 64) with h | h | h
  · have hlt : n < m := by omega
    rw [Nat.compare_eq_lt.2 h, Nat.compare_eq_lt.2 hlt]
    rfl
  · rw [Nat.compare_eq_eq.2 h, ← compare_add_left (64 * (n / 64)) (n % 64), Nat.div_add_mod, h,
      Nat.div_add_mod]
    rfl
  · have hgt : m < n := by omega
    rw [Nat.compare_eq_gt.2 h, Nat.compare_eq_gt.2 hgt]
    rfl

/-- With equally many digits the numbers decide, and where they are the same, what is behind. -/
theorem compare_digitBytes_append (mark digits n m : Nat) (xs ys : List Nat) :
    compare (digitBytes mark digits n ++ xs) (digitBytes mark digits m ++ ys) =
      (compare n m).then (compare xs ys) := by
  induction digits generalizing n m xs ys with
  | zero =>
    show compare ((mark + n) :: xs) ((mark + m) :: ys) = _
    rw [List.compare_cons_cons, compare_add_left]
  | succ digits ih =>
    -- the last digit belongs to what is behind the other ones
    rw [digitBytes, digitBytes, List.append_assoc, List.append_assoc, ih, List.singleton_append,
      List.singleton_append, List.compare_cons_cons, compare_add_left, ← Ordering.then_assoc,
      ← compare_eq_then_digit]

/-! ## Code points -/

/-- How many digits of a code point there are behind its first byte. -/
def digitsOf (n : Nat) : Nat :=
  if n ≤ 0x7f then 0 else if n ≤ 0x7ff then 1 else if n ≤ 0xffff then 2 else 3

/-- The mark of a first byte with so many digits behind it. -/
def markOf : Nat → Nat
  | 0 => 0
  | 1 => 0xc0
  | 2 => 0xe0
  | _ => 0xf0

/-- The UTF-8 form of a code point. -/
def encoding (n : Nat) : List Nat := digitBytes (markOf (digitsOf n)) (digitsOf n) n

/-- The first byte of the form. -/
def firstByte (n : Nat) : Nat := markOf (digitsOf n) + n / 64 ^ digitsOf n

/-- The bytes of a code point begin with its first byte. -/
theorem exists_encoding_eq_cons (n : Nat) : ∃ bytes, encoding n = firstByte n :: bytes :=
  exists_digitBytes_eq_cons _ _ n

/-- The first byte tells how many digits there are. -/
theorem lt_of_digitsOf_lt {n m : Nat} (h : digitsOf n < digitsOf m) :
    n < m ∧ firstByte n < firstByte m := by
  revert h
  unfold firstByte digitsOf
  split_ifs <;> simp only [markOf] <;> omega

/-- Of two code points the one with fewer digits comes first, and so do its bytes. -/
theorem compare_encoding_of_digitsOf_lt {n m : Nat} (h : digitsOf n < digitsOf m)
    (xs ys : List Nat) :
    compare (encoding n ++ xs) (encoding m ++ ys) = .lt ∧ compare n m = .lt := by
  obtain ⟨hlt, hfirst⟩ := lt_of_digitsOf_lt h
  obtain ⟨bytes, hbytes⟩ := exists_encoding_eq_cons n
  obtain ⟨bytes', hbytes'⟩ := exists_encoding_eq_cons m
  refine ⟨?_, Nat.compare_eq_lt.2 hlt⟩
  rw [hbytes, hbytes', List.cons_append, List.cons_append, List.compare_cons_cons,
    Nat.compare_eq_lt.2 hfirst]
  rfl

/-- The code points decide, and where they are the same, what is behind their forms. -/
theorem compare_encoding_append (n m : Nat) (xs ys : List Nat) :
    compare (encoding n ++ xs) (encoding m ++ ys) = (compare n m).then (compare xs ys) := by
  rcases Nat.lt_trichotomy (digitsOf n) (digitsOf m) with h | h | h
  · obtain ⟨hbytes, hlt⟩ := compare_encoding_of_digitsOf_lt h xs ys
    rw [hbytes, hlt]
    rfl
  · rw [encoding, encoding, h]
    exact compare_digitBytes_append _ _ n m xs ys
  · obtain ⟨hbytes, hlt⟩ := compare_encoding_of_digitsOf_lt h ys xs
    rw [Std.OrientedOrd.eq_swap, hbytes, Std.OrientedOrd.eq_swap (a := n), hlt]
    rfl

/-- Texts are ordered by their bytes as by their code points. -/
theorem compare_flatMap_encoding (ns ms : List Nat) :
    compare (ns.flatMap encoding) (ms.flatMap encoding) = compare ns ms := by
  induction ns generalizing ms with
  | nil =>
    cases ms with
    | nil => rfl
    | cons m ms =>
      obtain ⟨bytes, hbytes⟩ := exists_encoding_eq_cons m
      rw [List.flatMap_cons, hbytes]
      rfl
  | cons n ns ih =>
    cases ms with
    | nil =>
      obtain ⟨bytes, hbytes⟩ := exists_encoding_eq_cons n
      rw [List.flatMap_cons, hbytes]
      rfl
    | cons m ms =>
      rw [List.flatMap_cons, List.flatMap_cons, compare_encoding_append, ih,
        List.compare_cons_cons]

/-! ## Strings -/

/-- The bytes of a character are those of its code point. -/
theorem map_toNat_utf8EncodeChar (c : Char) :
    (String.utf8EncodeChar c).map UInt8.toNat = encoding c.toNat := by
  have hc : c.toNat < 0x110000 := by
    have hvalid : c.toNat < 0xd800 ∨ 0xdfff < c.toNat ∧ c.toNat < 0x110000 := c.valid
    omega
  have htoNat : c.val.toNat = c.toNat := rfl
  unfold String.utf8EncodeChar encoding digitsOf
  simp only [htoNat]
  -- no bits are lost, since the code point is as small as its form asks for
  split_ifs <;> simp [digitBytes, markOf] <;> omega

/-- The bytes of a string are the forms of its code points. -/
theorem map_toNat_utf8Bytes (s : String) :
    (utf8Bytes s).map UInt8.toNat = (codePoints s).flatMap encoding := by
  have hbytes : utf8Bytes s = s.toList.flatMap String.utf8EncodeChar := by
    rw [utf8Bytes, ← String.utf8Encode_toList, List.utf8Encode, List.toList_data_toByteArray]
  rw [hbytes, List.map_flatMap, codePoints, List.flatMap_map]
  exact List.flatMap_congr fun c _ => map_toNat_utf8EncodeChar c

/-- Bytes are ordered as the numbers that they are. -/
theorem compare_map_toNat (bs ds : List UInt8) :
    compare (bs.map UInt8.toNat) (ds.map UInt8.toNat) = compare bs ds := by
  induction bs generalizing ds with
  | nil => cases ds <;> rfl
  | cons b bs ih =>
    cases ds with
    | nil => rfl
    | cons d ds =>
      rw [List.map_cons, List.map_cons, List.compare_cons_cons, List.compare_cons_cons, ih,
        UInt8.compare_eq_toNat_compare_toNat]

/-- The order of the bytes of two strings is that of their code points. -/
theorem compareText_eq_compare_codePoints (s t : String) :
    compareText s t = compare (codePoints s) (codePoints t) := by
  rw [compareText, ← compare_map_toNat, map_toNat_utf8Bytes, map_toNat_utf8Bytes,
    compare_flatMap_encoding]

/-- The last code point of three bytes and the first one of four. -/
example : compareText "\uffff" (String.singleton (Char.ofNat 0x10000)) = .lt := by decide

end Text

end TemplateExpr
