/-
# Places in values

A place in a value is reached by steps, each to an item of a list or to the value of a map under a
name.  Alike values have the same places, and at each of them they are alike again; so what holds
of the numbers at all places carries over to the values.

Main statements:
* `induct_parts`: a property of all values holds if it passes from the parts of a value to the
  value;
* `keys_eq_of_alike`: alike maps have the same names, although only those of one are looked up;
* `alike_list_iff`, `alike_map_iff_find?`: when lists and maps are alike;
* `alike_at`: alike values are alike at all their places;
* `alike_iff_at`: when values are alike, told place by place;
* `alike_comp`, `alike_imp`, `alike_comm`, `alike_self_iff`: laws of a likeness come from laws for
  the numbers at every place.
-/
import Mathlib.Data.List.Sort
import TemplateExpr.Value.Equality

namespace TemplateExpr

/-- Of two maps with as many names, one of which has all names of the other, the names are the
same. -/
theorem Fields.keys_eq_of_subset {α β : Type} {f : Fields α} {g : Fields β}
    (hsize : f.size = g.size) (h : f.keys ⊆ g.keys) : f.keys = g.keys := by
  have hperm : f.keys.Perm g.keys :=
    (List.subperm_of_subset f.nodup_keys h).perm_of_length_le (Nat.le_of_eq hsize.symm)
  refine hperm.eq_of_pairwise ?_ f.ascending g.ascending
  intro name name' _ _ hlt hgt
  exact absurd hgt (String.lt_asymm hlt)

namespace Value

/-! ## Steps and paths -/

/-- A step into a value. -/
inductive Step where
  /-- To the item of a list at an index. -/
  | item (index : Nat)
  /-- To the value of a map under a name. -/
  | entry (name : String)
deriving DecidableEq

/-- What a step leads to. -/
def part? : Value → Step → Option Value
  | .list items, .item i => items[i]?
  | .map fields, .entry name => fields.find? name
  | _, _ => none

/-- What stands at the end of a path. -/
def at? (v : Value) : List Step → Option Value
  | [] => some v
  | step :: path => (v.part? step).bind fun part => part.at? path

/-- At the end of no step stands the value itself. -/
@[simp] theorem at?_nil (v : Value) : v.at? [] = some v := rfl

/-- A path goes on from the part to which its first step leads. -/
theorem at?_cons_eq_some_iff {v w : Value} {step : Step} {path : List Step} :
    v.at? (step :: path) = some w ↔
      ∃ part, v.part? step = some part ∧ part.at? path = some w :=
  Option.bind_eq_some_iff

/-- A property of all values holds if it passes from the parts of a value to the value. -/
@[elab_as_elim] theorem induct_parts {motive : Value → Prop}
    (whole : ∀ v, (∀ step part, v.part? step = some part → motive part) → motive v)
    (v : Value) : motive v := by
  induction v using Value.induct with
  | list items ih =>
    refine whole _ fun step part h => ?_
    cases step with
    | item i => exact ih part (List.mem_of_getElem? h)
    | entry name => cases h
  | map fields ih =>
    refine whole _ fun step part h => ?_
    cases step with
    | item i => cases h
    | entry name =>
      obtain ⟨i, -, rfl⟩ := Fields.exists_key_of_find? h
      exact ih i
  | _ => exact whole _ fun step part h => by cases h

/-! ## NaNs -/

/-- A NaN stands somewhere in the value. -/
def HasNaN (v : Value) : Prop :=
  ∃ path x, v.at? path = some (.float x) ∧ x.isNaN = true

/-- No NaN stands in an integer. -/
theorem not_hasNaN_integer (n : Int64) : ¬ (integer n).HasNaN := by
  rintro ⟨path, x, hx, -⟩
  cases path with
  | nil => cases hx
  | cons step path => cases step <;> cases hx

/-- No NaN stands in a number that is none. -/
theorem not_hasNaN_float {x : Binary64} (h : x.isNaN = false) : ¬ (float x).HasNaN := by
  rintro ⟨path, y, hy, hnan⟩
  cases path with
  | nil =>
    obtain rfl : x = y := by simpa using hy
    simp [h] at hnan
  | cons step path => cases step <;> cases hy

/-! ## Alike values -/

variable {same same' same'' : Value → Value → Bool} {a b c : Value}

/-- The relation holds between numbers only. -/
def OnNumbers (same : Value → Value → Bool) : Prop :=
  ∀ a b, same a b = true → a.isNumber = true ∧ b.isNumber = true

/-- What is no number is not related to anything. -/
theorem OnNumbers.eq_false (hsame : OnNumbers same) (h : a.isNumber = false) :
    same a b = false := by
  rw [Bool.eq_false_iff]
  intro hab
  rw [(hsame a b hab).1] at h
  cases h

/-- Numbers are alike if they are related. -/
theorem alike_of_isNumber (h : a.isNumber = true) : alike same a b = same a b := by
  cases a with
  | integer n => cases b <;> rfl
  | float x => cases b <;> rfl
  | _ => cases h

/-- Only nil is alike to nil. -/
theorem alike_nil_iff (hsame : OnNumbers same) : alike same .nil b = true ↔ b = .nil := by
  cases b <;> simp [alike, hsame.eq_false (a := .nil) rfl]

/-- Only the same truth value is alike to a truth value. -/
theorem alike_boolean_iff (hsame : OnNumbers same) {x : Bool} :
    alike same (.boolean x) b = true ↔ b = .boolean x := by
  cases b <;> simp [alike, hsame.eq_false (a := .boolean x) rfl, eq_comm (a := x)]

/-- Only the same string is alike to a string. -/
theorem alike_string_iff (hsame : OnNumbers same) {s : String} :
    alike same (.string s) b = true ↔ b = .string s := by
  cases b <;> simp [alike, hsame.eq_false (a := .string s) rfl, eq_comm (a := s)]

/-- Only a list is alike to a list. -/
theorem list_of_alike (hsame : OnNumbers same) {as : List Value}
    (h : alike same (.list as) b = true) : ∃ bs, b = .list bs := by
  cases b with
  | list bs => exact ⟨bs, rfl⟩
  | _ => simp [alike, hsame.eq_false (a := .list as) rfl] at h

/-- Only a map is alike to a map. -/
theorem map_of_alike (hsame : OnNumbers same) {f : Fields Value}
    (h : alike same (.map f) b = true) : ∃ g, b = .map g := by
  cases b with
  | map g => exact ⟨g, rfl⟩
  | _ => simp [alike, hsame.eq_false (a := .map f) rfl] at h

/-- Lists are alike if they have the same length and are alike at every index. -/
theorem alike_list_iff {as bs : List Value} :
    alike same (.list as) (.list bs) = true ↔
      as.length = bs.length ∧
        ∀ (i : Nat) (v w : Value), as[i]? = some v → bs[i]? = some w → alike same v w = true := by
  rw [alike, alikeItems_iff]
  refine and_congr_right fun _ => ⟨fun h i v w hv hw => ?_, fun h p hp => ?_⟩
  · exact h (v, w) (List.mem_of_getElem? (List.getElem?_zip_eq_some.2 ⟨hv, hw⟩))
  · obtain ⟨i, hi⟩ := List.mem_iff_getElem?.1 hp
    obtain ⟨hv, hw⟩ := List.getElem?_zip_eq_some.1 hi
    exact h i p.1 p.2 hv hw

/-- Alike maps have the same names: there are as many in both, and none is only in the first. -/
theorem keys_eq_of_alike {f g : Fields Value} (h : alike same (.map f) (.map g) = true) :
    f.keys = g.keys := by
  obtain ⟨hsize, hentries⟩ := (alike_map_iff same f g).1 h
  apply Fields.keys_eq_of_subset hsize
  intro name hname
  rw [Fields.mem_keys_iff] at hname ⊢
  obtain ⟨v, hv⟩ := Option.ne_none_iff_exists'.1 hname
  obtain ⟨w, hw, -⟩ := hentries name v hv
  exact Option.ne_none_iff_exists'.2 ⟨w, hw⟩

/-- Maps are alike if they have the same names and are alike under every name. -/
theorem alike_map_iff_find? {f g : Fields Value} :
    alike same (.map f) (.map g) = true ↔
      f.keys = g.keys ∧
        ∀ name v w, f.find? name = some v → g.find? name = some w → alike same v w = true := by
  constructor
  · intro h
    refine ⟨keys_eq_of_alike h, fun name v w hv hw => ?_⟩
    obtain ⟨w', hw', halike⟩ := ((alike_map_iff same f g).1 h).2 name v hv
    obtain rfl : w' = w := Option.some.inj (hw'.symm.trans hw)
    exact halike
  · rintro ⟨hkeys, hentries⟩
    refine (alike_map_iff same f g).2 ⟨congrArg List.length hkeys, fun name v hv => ?_⟩
    obtain ⟨w, hw⟩ := Fields.exists_find?_of_keys_eq hkeys hv
    exact ⟨w, hw, hentries name v w hv hw⟩

/-! ## One level -/

/-- What a value is apart from its parts and from the number that it is. -/
inductive Frame where
  | nil
  | boolean (b : Bool)
  | number
  | string (s : String)
  | list (length : Nat)
  | map (names : List String)

/-- The frame of a value. -/
def frame : Value → Frame
  | .nil => .nil
  | .boolean b => .boolean b
  | .integer _ => .number
  | .float _ => .number
  | .string s => .string s
  | .list items => .list items.length
  | .map fields => .map fields.keys

/-- The values with the frame of numbers are the numbers. -/
theorem frame_eq_number_iff : a.frame = .number ↔ a.isNumber = true := by
  cases a <;> simp [frame, isNumber]

/-- Of two values with the same frame both are numbers or neither is. -/
theorem isNumber_iff_of_frame_eq (h : a.frame = b.frame) :
    a.isNumber = true ↔ b.isNumber = true := by
  rw [← frame_eq_number_iff, ← frame_eq_number_iff, h]

/-- Values that are alike have the same frame. -/
theorem frame_eq_of_alike (hsame : OnNumbers same) (h : alike same a b = true) :
    a.frame = b.frame := by
  by_cases hnumber : a.isNumber = true
  · rw [alike_of_isNumber hnumber] at h
    rw [frame_eq_number_iff.2 hnumber, frame_eq_number_iff.2 (hsame a b h).2]
  · cases a with
    | nil =>
      obtain rfl := (alike_nil_iff hsame).1 h
      rfl
    | boolean x =>
      obtain rfl := (alike_boolean_iff hsame).1 h
      rfl
    | integer n => exact absurd rfl hnumber
    | float x => exact absurd rfl hnumber
    | string s =>
      obtain rfl := (alike_string_iff hsame).1 h
      rfl
    | list as =>
      obtain ⟨bs, rfl⟩ := list_of_alike hsame h
      exact congrArg Frame.list (alike_list_iff.1 h).1
    | map f =>
      obtain ⟨g, rfl⟩ := map_of_alike hsame h
      exact congrArg Frame.map (keys_eq_of_alike h)

/-- Values with one frame are alike if they are as numbers and in their parts. -/
theorem alike_of_frame (hframe : a.frame = b.frame)
    (hnumber : a.isNumber = true → same a b = true)
    (hparts : ∀ step u v, a.part? step = some u → b.part? step = some v →
      alike same u v = true) :
    alike same a b = true := by
  cases a with
  | nil =>
    cases b with
    | nil => rfl
    | _ => cases hframe
  | boolean x =>
    cases b with
    | boolean y =>
      obtain rfl := Frame.boolean.inj hframe
      exact beq_self_eq_true x
    | _ => cases hframe
  | integer n =>
    rw [alike_of_isNumber rfl]
    exact hnumber rfl
  | float x =>
    rw [alike_of_isNumber rfl]
    exact hnumber rfl
  | string s =>
    cases b with
    | string t =>
      obtain rfl := Frame.string.inj hframe
      exact beq_self_eq_true s
    | _ => cases hframe
  | list as =>
    cases b with
    | list bs =>
      exact alike_list_iff.2 ⟨Frame.list.inj hframe, fun i u v hu hv => hparts (.item i) u v hu hv⟩
    | _ => cases hframe
  | map f =>
    cases b with
    | map g =>
      exact alike_map_iff_find?.2
        ⟨Frame.map.inj hframe, fun name u v hu hv => hparts (.entry name) u v hu hv⟩
    | _ => cases hframe

/-! ## Alike at every place -/

/-- Alike values have the same parts and are alike in each of them. -/
theorem alike_part (hsame : OnNumbers same) {step : Step} {v : Value}
    (h : alike same a b = true) (hv : a.part? step = some v) :
    ∃ w, b.part? step = some w ∧ alike same v w = true := by
  cases a with
  | list as =>
    cases step with
    | item i =>
      obtain ⟨bs, rfl⟩ := list_of_alike hsame h
      obtain ⟨hlength, hitems⟩ := alike_list_iff.1 h
      have hi : i < bs.length := hlength ▸ (List.getElem?_eq_some_iff.1 hv).1
      have hw : bs[i]? = some bs[i] := List.getElem?_eq_getElem hi
      exact ⟨bs[i], hw, hitems i v bs[i] hv hw⟩
    | entry name => cases hv
  | map f =>
    cases step with
    | item i => cases hv
    | entry name =>
      obtain ⟨g, rfl⟩ := map_of_alike hsame h
      obtain ⟨hkeys, hentries⟩ := alike_map_iff_find?.1 h
      obtain ⟨w, hw⟩ := Fields.exists_find?_of_keys_eq hkeys hv
      exact ⟨w, hw, hentries name v w hv hw⟩
  | _ => cases hv

/-- Alike values have the same places and are alike at each of them. -/
theorem alike_at (hsame : OnNumbers same) {path : List Step} {v : Value}
    (h : alike same a b = true) (hv : a.at? path = some v) :
    ∃ w, b.at? path = some w ∧ alike same v w = true := by
  induction path generalizing a b with
  | nil =>
    obtain rfl : a = v := by simpa using hv
    exact ⟨b, rfl, h⟩
  | cons step path ih =>
    obtain ⟨part, hpart, hv⟩ := at?_cons_eq_some_iff.1 hv
    obtain ⟨part', hpart', halike⟩ := alike_part hsame h hpart
    obtain ⟨w, hw, hvw⟩ := ih halike hv
    exact ⟨w, at?_cons_eq_some_iff.2 ⟨part', hpart', hw⟩, hvw⟩

/-- Values are alike if at every place that both have they agree apart from their parts. -/
theorem alike_of_at
    (hframe : ∀ path u v, a.at? path = some u → b.at? path = some v → u.frame = v.frame)
    (hnumber : ∀ path u v, a.at? path = some u → b.at? path = some v → u.isNumber = true →
      same u v = true) :
    alike same a b = true := by
  induction a using induct_parts generalizing b with
  | whole a ih =>
    refine alike_of_frame (hframe [] a b rfl rfl) (hnumber [] a b rfl rfl) ?_
    intro step u v hu hv
    refine ih step u hu (fun path p q hp hq => ?_) (fun path p q hp hq => ?_)
    · exact hframe (step :: path) p q (at?_cons_eq_some_iff.2 ⟨u, hu, hp⟩)
        (at?_cons_eq_some_iff.2 ⟨v, hv, hq⟩)
    · exact hnumber (step :: path) p q (at?_cons_eq_some_iff.2 ⟨u, hu, hp⟩)
        (at?_cons_eq_some_iff.2 ⟨v, hv, hq⟩)

/-- Whether values are alike can be told place by place. -/
theorem alike_iff_at (hsame : OnNumbers same) :
    alike same a b = true ↔
      ∀ path u v, a.at? path = some u → b.at? path = some v →
        u.frame = v.frame ∧ (u.isNumber = true → same u v = true) := by
  constructor
  · intro h path u v hu hv
    obtain ⟨v', hv', huv⟩ := alike_at hsame h hu
    obtain rfl : v' = v := Option.some.inj (hv'.symm.trans hv)
    refine ⟨frame_eq_of_alike hsame huv, fun hnumber => ?_⟩
    rwa [alike_of_isNumber hnumber] at huv
  · exact fun h => alike_of_at (fun path u v hu hv => (h path u v hu hv).1)
      (fun path u v hu hv => (h path u v hu hv).2)

/-- Two likenesses make a third one if they do so for the numbers at every place. -/
theorem alike_comp (hsame : OnNumbers same) (hsame' : OnNumbers same')
    (hab : alike same a b = true) (hbc : alike same' b c = true)
    (hcomp : ∀ path u v w, a.at? path = some u → b.at? path = some v → c.at? path = some w →
      same u v = true → same' v w = true → same'' u w = true) :
    alike same'' a c = true := by
  have hbetween : ∀ path u w, a.at? path = some u → c.at? path = some w →
      ∃ v, b.at? path = some v ∧ alike same u v = true ∧ alike same' v w = true := by
    intro path u w hu hw
    obtain ⟨v, hv, huv⟩ := alike_at hsame hab hu
    obtain ⟨w', hw', hvw⟩ := alike_at hsame' hbc hv
    obtain rfl : w' = w := Option.some.inj (hw'.symm.trans hw)
    exact ⟨v, hv, huv, hvw⟩
  apply alike_of_at
  · intro path u w hu hw
    obtain ⟨v, -, huv, hvw⟩ := hbetween path u w hu hw
    exact (frame_eq_of_alike hsame huv).trans (frame_eq_of_alike hsame' hvw)
  · intro path u w hu hw hnumber
    obtain ⟨v, hv, huv, hvw⟩ := hbetween path u w hu hw
    rw [alike_of_isNumber hnumber] at huv
    rw [alike_of_isNumber (hsame u v huv).2] at hvw
    exact hcomp path u v w hu hv hw huv hvw

/-- A likeness of one value to another makes another likeness if it does so at every place. -/
theorem alike_imp (hsame : OnNumbers same) (h : alike same a b = true)
    (himp : ∀ path u v, a.at? path = some u → b.at? path = some v → same u v = true →
      same' u v = true) :
    alike same' a b = true := by
  rw [alike_iff_at hsame] at h
  apply alike_of_at
  · exact fun path u v hu hv => (h path u v hu hv).1
  · exact fun path u v hu hv hnumber => himp path u v hu hv ((h path u v hu hv).2 hnumber)

/-- A likeness that is the same both ways round for numbers is so for all values. -/
theorem alike_comm (hsame : OnNumbers same) (hcomm : ∀ u v, same u v = same v u) (a b : Value) :
    alike same a b = alike same b a := by
  have hswap : ∀ {a b}, alike same a b = true → alike same b a = true := by
    intro a b h
    rw [alike_iff_at hsame] at h ⊢
    intro path v u hv hu
    obtain ⟨hframe, hnumber⟩ := h path u v hu hv
    refine ⟨hframe.symm, fun hv' => ?_⟩
    rw [hcomm]
    exact hnumber ((isNumber_iff_of_frame_eq hframe).2 hv')
  exact Bool.eq_iff_iff.2 ⟨hswap, hswap⟩

/-- A value is like itself if all numbers in it are. -/
theorem alike_self_iff (hsame : OnNumbers same) :
    alike same a a = true ↔
      ∀ path u, a.at? path = some u → u.isNumber = true → same u u = true := by
  rw [alike_iff_at hsame]
  constructor
  · exact fun h path u hu hnumber => (h path u u hu hu).2 hnumber
  · intro h path u v hu hv
    obtain rfl : u = v := Option.some.inj (hu.symm.trans hv)
    exact ⟨rfl, h path u hu⟩

end Value

end TemplateExpr
