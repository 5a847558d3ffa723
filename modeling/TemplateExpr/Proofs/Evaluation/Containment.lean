/-
# Containment

A list contains what equals one of its items.  So to ask whether a list contains a value is to ask
of the element at each index whether it equals the value, and a list contains all of its elements
but those with a NaN in them.  A string contains the strings that can be cut out of it, its
characters among them.  Nothing else contains anything.

Main statements:
* `equals_self_of_not_hasNaN`, `not_hasNaN_of_equals`: what can equal an item;
* `element_mem_of_hasItems`: the element at an index in range is an item;
* `eval_contains_of_eq`: only the values of the operands matter;
* `evalOperands_map_of_boolean`: a chain of operands that are booleans;
* `eval_contains`: what lists, strings and other values contain.
-/
import TemplateExpr.Proofs.Evaluation.Connectives
import TemplateExpr.Proofs.Evaluation.Indexing
import TemplateExpr.Proofs.Values.Equality

namespace TemplateExpr

namespace Value

variable {a b x : Value} {items : List Value}

/-! ## Items that equal a value -/

/-- Without a NaN in it a value equals itself. -/
theorem equals_self_of_not_hasNaN (h : ¬ a.HasNaN) : a.equals a = true := by
  refine (alike_self_iff onNumbers_sameNumber).2 fun path u hu hnumber => ?_
  rw [sameNumber_self_iff hnumber]
  rintro x rfl
  rw [Bool.eq_false_iff]
  exact fun hnan => h ⟨path, x, hu, hnan⟩

/-- With a NaN in it a value equals nothing. -/
theorem not_hasNaN_of_equals (h : a.equals b = true) : ¬ a.HasNaN := by
  rintro ⟨path, x, hx, hnan⟩
  obtain ⟨w, -, hxw⟩ := alike_at onNumbers_sameNumber h hx
  rw [alike_of_isNumber rfl, sameNumber_iff] at hxw
  obtain ⟨p, q, hp, -, -⟩ := hxw
  rw [number?_nan hnan] at hp
  cases hp

/-- Some of the items equals the value itself, if it is one of them. -/
theorem any_equals_iff_of_mem (h : a ∈ items) :
    items.any (·.equals a) = true ↔ ¬ a.HasNaN := by
  rw [List.any_eq_true]
  constructor
  · rintro ⟨item, -, hequals⟩
    have hcomm := alike_comm onNumbers_sameNumber sameNumber_comm item a
    exact not_hasNaN_of_equals (hcomm.symm.trans hequals)
  · exact fun hnan => ⟨a, h, equals_self_of_not_hasNaN hnan⟩

/-- The element at an index in range is an item. -/
theorem element_mem_of_hasItems (h : HasItems x items)
    (hsize : items.length ≤ Int64.maxValue.toInt) {i : Int64} (hlow : -items.length ≤ i.toInt)
    (hhigh : i.toInt < items.length) : x.element (.integer i) ∈ items := by
  by_cases hneg : i.toInt < 0
  · have hk : (i.toInt + items.length).toNat < items.length := by omega
    rw [element_of_hasItems h hsize hk (.inr (by omega))]
    exact List.getElem_mem hk
  · have hk : i.toInt.toNat < items.length := by omega
    rw [element_of_hasItems h hsize hk (.inl (by omega))]
    exact List.getElem_mem hk

/-! ## Parts of strings -/

/-- A string is part of the strings that have a text before and a text after it. -/
theorem occursIn_toList_iff (s t : String) :
    Text.occursIn t.toList s.toList = true ↔ ∃ before after : String, s = before ++ t ++ after := by
  rw [Text.occursIn_iff]
  constructor
  · rintro ⟨before, after, h⟩
    refine ⟨String.ofList before, String.ofList after, String.toList_inj.1 ?_⟩
    rw [h, String.toList_append, String.toList_append, String.toList_ofList, String.toList_ofList]
  · rintro ⟨before, after, rfl⟩
    exact ⟨before.toList, after.toList, by rw [String.toList_append, String.toList_append]⟩

/-- Every character of a string is part of it. -/
theorem occursIn_singleton {s : String} {c : Char} (h : c ∈ s.toList) :
    Text.occursIn c.toString.toList s.toList = true := by
  obtain ⟨before, after, hs⟩ := List.append_of_mem h
  have hc : c.toString.toList = [c] := String.toList_singleton c
  rw [Text.occursIn_iff, hs, hc]
  exact ⟨before, after, by rw [List.append_assoc, List.singleton_append]⟩

/-- A string contains its element at an index in range. -/
theorem containsValue_element_string {s : String} {i : Int64}
    (hsize : s.length ≤ Int64.maxValue.toInt) (hlow : -s.length ≤ i.toInt)
    (hhigh : i.toInt < s.length) :
    (string s).containsValue ((string s).element (.integer i)) = .ok true := by
  have hlength : (s.toList.map fun c => Value.string c.toString).length = s.length := by
    rw [List.length_map, String.length_toList]
  rw [← hlength] at hsize hlow hhigh
  have hmem := element_mem_of_hasItems (.string s) hsize hlow hhigh
  obtain ⟨c, hc, helement⟩ := List.mem_map.1 hmem
  rw [← helement]
  exact congrArg Except.ok (occursIn_singleton hc)

theorem containsValue_eq_error (hlist : a.kind ≠ .list)
    (hstrings : ¬ (a.kind = .string ∧ b.kind = .string)) :
    a.containsValue b = .error (.mismatch .contains
      (if a.kind = .string then .wrongKind .string b.kind
        else .inapplicable a.kind b.kind)) := by
  cases a with
  | list => exact absurd rfl hlist
  | string s =>
    cases b with
    | string t => exact absurd ⟨rfl, rfl⟩ hstrings
    | _ => rfl
  | _ => rfl

end Value

/-- The chain that asks of each of the first `size` elements of `x` whether it equals `y`. -/
def Expr.equalsSomeElement (x : Value) (size : Nat) (y : Value) : Expr :=
  .logical .or ((List.range size).map fun k =>
    .compare .equal (.index (.literal x) (.literal (.integer (.ofNat k)))) (.literal y))

namespace Context

variable {c : Context}

/-! ## Evaluation -/

/-- Whether one value contains another is all that is asked of the values of the operands. -/
theorem eval_contains_of_eq {left right : Expr} {a b : Value} {calls calls' : List Call}
    (hleft : c.eval left = ⟨.ok a, calls⟩) (hright : c.eval right = ⟨.ok b, calls'⟩) :
    c.eval (.contains left right) = ⟨(a.containsValue b).map .boolean, calls ++ calls'⟩ := by
  unfold eval at hleft hright ⊢
  rw [evalAs, hleft, hright, Traced.bind_ok, Traced.bind_ok]
  -- the answer itself calls nothing
  cases a.containsValue b <;>
    exact congrArg (fun more => Traced.mk _ (calls ++ more)) (List.append_nil calls')

theorem eval_literal (a : Value) : c.eval (.literal a) = ⟨.ok a, []⟩ := by
  rw [eval, evalAs]
  rfl

theorem eval_contains_literal (a b : Value) :
    c.eval (.contains (.literal a) (.literal b)) = ⟨(a.containsValue b).map .boolean, []⟩ :=
  eval_contains_of_eq (eval_literal a) (eval_literal b)

theorem eval_index_literal (a index : Value) :
    c.eval (.index (.literal a) (.literal index)) = ⟨.ok (a.element index), []⟩ := by
  rw [eval, evalAs, evalAs, evalAs, pure_bind, pure_bind]
  rfl

theorem eval_equal_element (a index b : Value) :
    c.eval (.compare .equal (.index (.literal a) (.literal index)) (.literal b)) =
      ⟨.ok (.boolean ((a.element index).equals b)), []⟩ := by
  have hindex := eval_index_literal (c := c) a index
  unfold eval at hindex ⊢
  rw [evalAs, hindex, evalAs]
  rfl

/-- Operands that are booleans make a chain true as soon as one of them is. -/
theorem evalOperands_map_of_boolean {α : Type} {f : α → Expr} {p : α → Bool} (is : List α)
    (h : ∀ i ∈ is, c.eval (f i) = ⟨.ok (.boolean (p i)), []⟩) :
    c.evalOperands .or (is.map f) = ⟨.ok (.boolean (is.any p)), []⟩ := by
  induction is with
  | nil => rw [List.map_nil, evalOperands]; rfl
  | cons i is ih =>
    obtain ⟨hi, his⟩ := List.forall_mem_cons.1 h
    rw [List.map_cons, List.any_cons]
    cases hp : p i with
    | true =>
      have hstops : ¬ c.Passes .or (f i) := by
        unfold Passes
        rw [hi, hp]
        simp [Connective.neutral]
      rw [evalOperands_of_not_passes hstops, hi, hp]
      rfl
    | false =>
      have hpasses : c.Passes .or (f i) := by
        unfold Passes
        rw [hi, hp]
        rfl
      rw [evalOperands_of_passes hpasses, ih his, hi]
      rfl

/-- Asking each element is asking each item. -/
theorem eval_equalsSomeElement {x : Value} {items : List Value} (h : x.HasItems items)
    (hsize : items.length ≤ Int64.maxValue.toInt) (y : Value) :
    c.eval (.equalsSomeElement x items.length y) =
      ⟨.ok (.boolean (items.any (·.equals y))), []⟩ := by
  have helements := Value.elements_eq_of_hasItems h hsize
  have hany : ((List.range items.length).any fun k =>
      (x.element (.integer (Int64.ofNat k))).equals y) = items.any (·.equals y) := by
    rw [← helements, List.any_map, helements]
    rfl
  rw [Expr.equalsSomeElement, eval, evalAs, evalOperands_map_of_boolean _
    fun k _ => eval_equal_element x (.integer (Int64.ofNat k)) y, hany]

/-- Whether a list contains a value is what the chain says that asks each of its elements, in any
context, and an empty list contains nothing.  A list contains its element at an index just if that
has no NaN in it.  A string contains the strings that have a text before and a text after them, and
so its element at every index.  Where the left value is no list and the values are not both
strings, it is an error to ask.  Operands count by their values, and what they call is called.  No
list and no string has more elements than an integer can count. -/
theorem eval_contains (c : Context) :
    (∀ (items : List Value) (x : Value), items.length ≤ Int64.maxValue.toInt →
      (∃ b, c.eval (.contains (.literal (.list items)) (.literal x)) = ⟨.ok (.boolean b), []⟩ ∧
        c.eval (.equalsSomeElement (.list items) items.length x) = ⟨.ok (.boolean b), []⟩ ∧
        (items = [] → b = false))) ∧
    (∀ (items : List Value) (i : Int64), items.length ≤ Int64.maxValue.toInt →
      -items.length ≤ i.toInt → i.toInt < items.length →
      ∃ b, c.eval (.contains (.literal (.list items))
          (.index (.literal (.list items)) (.literal (.integer i)))) = ⟨.ok (.boolean b), []⟩ ∧
        (b = true ↔ ¬ ((Value.list items).element (.integer i)).HasNaN)) ∧
    (∀ s t : String,
      ∃ b, c.eval (.contains (.literal (.string s)) (.literal (.string t))) =
          ⟨.ok (.boolean b), []⟩ ∧
        (b = true ↔ ∃ before after : String, s = before ++ t ++ after)) ∧
    (∀ (s : String) (i : Int64), s.length ≤ Int64.maxValue.toInt → -s.length ≤ i.toInt →
      i.toInt < s.length →
      c.eval (.contains (.literal (.string s))
        (.index (.literal (.string s)) (.literal (.integer i)))) = ⟨.ok (.boolean true), []⟩) ∧
    (∀ a b : Value, a.kind ≠ .list → ¬ (a.kind = .string ∧ b.kind = .string) →
      c.eval (.contains (.literal a) (.literal b)) =
        ⟨.error (.mismatch .contains (if a.kind = .string then .wrongKind .string b.kind
          else .inapplicable a.kind b.kind)), []⟩) ∧
    ∀ (left right : Expr) (a b : Value) (calls calls' : List Call),
      c.eval left = ⟨.ok a, calls⟩ → c.eval right = ⟨.ok b, calls'⟩ →
      c.eval (.contains left right) =
        ⟨(c.eval (.contains (.literal a) (.literal b))).outcome, calls ++ calls'⟩ := by
  refine ⟨?_, ?_, ?_, ?_, ?_, ?_⟩
  · intro items x hsize
    refine ⟨items.any (·.equals x), eval_contains_literal _ _,
      eval_equalsSomeElement (.list items) hsize x, ?_⟩
    rintro rfl
    rfl
  · intro items i hsize hlow hhigh
    have hmem := Value.element_mem_of_hasItems (.list items) hsize hlow hhigh
    exact ⟨_, eval_contains_of_eq (eval_literal _) (eval_index_literal _ _),
      Value.any_equals_iff_of_mem hmem⟩
  · intro s t
    exact ⟨_, eval_contains_literal _ _, Value.occursIn_toList_iff s t⟩
  · intro s i hsize hlow hhigh
    rw [eval_contains_of_eq (eval_literal _) (eval_index_literal _ _),
      Value.containsValue_element_string hsize hlow hhigh]
    rfl
  · intro a b hlist hstrings
    rw [eval_contains_literal, Value.containsValue_eq_error hlist hstrings]
    rfl
  · intro left right a b calls calls' hleft hright
    rw [eval_contains_of_eq hleft hright, eval_contains_literal]

/-- A list with a NaN for its last item does not contain it, a string contains the last of its two
characters, and nil contains nothing. -/
theorem eval_contains_last :
    (empty .new).eval (.contains (.literal (.list [.nil, .float ⟨0x7ff8000000000000⟩]))
        (.index (.literal (.list [.nil, .float ⟨0x7ff8000000000000⟩])) (.literal (.integer (-1))))) =
          ⟨.ok (.boolean false), []⟩ ∧
      (empty .new).eval (.contains (.literal (.string "aé"))
        (.index (.literal (.string "aé")) (.literal (.integer (-1))))) =
          ⟨.ok (.boolean true), []⟩ ∧
      (empty .new).eval (.contains (.literal .nil) (.literal (.string "a"))) =
        ⟨.error (.mismatch .contains (.inapplicable .nil .string)), []⟩ := by
  obtain ⟨-, hlists, -, hstrings, hothers, -⟩ := eval_contains (empty .new)
  refine ⟨?_, hstrings "aé" (-1) (by decide) (by decide) (by decide),
    hothers .nil (.string "a") (by decide) (by decide)⟩
  obtain ⟨b, heval, hb⟩ := hlists [.nil, .float ⟨0x7ff8000000000000⟩] (-1) (by decide) (by decide)
    (by decide)
  have hlast := Value.element_of_hasItems (.list [.nil, .float ⟨0x7ff8000000000000⟩]) (by decide)
    (i := -1) (k := 1) (by decide) (.inr (by decide))
  obtain rfl : b = false := by
    rw [Bool.eq_false_iff]
    refine fun htrue => hb.1 htrue ?_
    rw [hlast]
    exact ⟨[], _, rfl, by decide⟩
  exact heval

end Context

end TemplateExpr
