/-
# Fields

A finite map from names to values: the names in strictly ascending order, and a value for
each place in that order.  Every finite map is one such pair and no more, so two maps are equal as
soon as they have the same names and the same values, whatever was inserted first.

Main statements:
* `ext_toList`: a map is known by its entries;
* `find?_eq_some_iff`: a name has the value with which it stands among the entries;
* `find?_map`: other values under the same names;
* `find?_ofTreeMap`, `find?_ofList`: the values of a map built from a search tree or from a list,
  in which the last entry with a name counts.
-/
import Std.Data.TreeMap.Lemmas

namespace TemplateExpr

/-- A search tree keeps names in their own order. -/
theorem lt_of_compare {s t : String} (h : compare s t = .lt) : s < t :=
  compareOfLessAndEq_eq_lt.1 h

/-- A finite map from names to values. -/
structure Fields (α : Type) where
  /-- The names that have a value. -/
  keys : List String
  /-- Each name stands once, in its place. -/
  ascending : keys.Pairwise (· < ·)
  /-- The value of the name at a place. -/
  get : Fin keys.length → α

namespace Fields

variable {α β : Type}

/-! ## Reading -/

/-- The number of names. -/
def size (f : Fields α) : Nat := f.keys.length

/-- The names with their values. -/
def toList (f : Fields α) : List (String × α) :=
  List.ofFn fun i : Fin f.keys.length => (f.keys[i], f.get i)

/-- The first entry answers for its own name. -/
theorem lookup_cons_eq_ite (k : String) (v : α) (entries : List (String × α)) (n : String) :
    ((k, v) :: entries).lookup n = if n = k then some v else entries.lookup n := by
  rw [List.lookup_cons]
  by_cases h : n = k
  · simp [h]
  · rw [beq_false_of_ne h, if_neg h]

/-- The value of a name. -/
def find? (f : Fields α) (name : String) : Option α := f.toList.lookup name

/-- The keys of the entries are the keys of the map. -/
theorem keys_toList (f : Fields α) : f.toList.map Prod.fst = f.keys := by
  simp [toList, Function.comp_def]

/-- A map is known by its entries. -/
theorem ext_toList {f g : Fields α} (h : f.toList = g.toList) : f = g := by
  have hk : f.keys = g.keys := by rw [← keys_toList f, ← keys_toList g, h]
  obtain ⟨keys, _, get⟩ := f
  obtain ⟨_, _, get'⟩ := g
  obtain rfl : keys = _ := hk
  have hg : get = get' := by
    funext i
    have hi := congrArg (fun l => l[i.val]?) h
    simpa [toList] using hi
  rw [hg]

/-! ## Entries in order -/

/-- Entries whose names ascend. -/
abbrev Ascending (entries : List (String × α)) : Prop :=
  (entries.map Prod.fst).Pairwise (· < ·)

/-- The entries stand in the order of their keys. -/
theorem ascending_toList (f : Fields α) : Ascending f.toList := by
  rw [Ascending, keys_toList]
  exact f.ascending

/-- Where names ascend, each has the value with which it stands. -/
theorem lookup_eq_some_iff {entries : List (String × α)} (h : Ascending entries) (name : String)
    (value : α) : entries.lookup name = some value ↔ (name, value) ∈ entries := by
  induction entries with
  | nil => simp
  | cons e rest ih =>
    obtain ⟨k, v⟩ := e
    simp only [Ascending, List.map_cons, List.pairwise_cons] at h
    rw [lookup_cons_eq_ite, List.mem_cons, Prod.mk.injEq]
    by_cases hk : name = k
    · subst hk
      have hrest : (name, value) ∉ rest := fun hm =>
        String.lt_irrefl name (h.1 name (List.mem_map.2 ⟨_, hm, rfl⟩))
      simp [hrest, eq_comm]
    · simp [hk, ih h.2]

/-- Where names ascend, it does not matter from which end a name is looked for. -/
theorem lookup_reverse {entries : List (String × α)} (h : Ascending entries) (name : String) :
    entries.reverse.lookup name = entries.lookup name := by
  induction entries with
  | nil => rfl
  | cons e rest ih =>
    obtain ⟨k, v⟩ := e
    have hrest : Ascending rest := (List.pairwise_cons.1 h).2
    rw [List.reverse_cons, List.lookup_append, ih hrest]
    rw [lookup_cons_eq_ite, lookup_cons_eq_ite, List.lookup_nil]
    by_cases hk : name = k
    · have hnone : rest.lookup name = none := by
        rw [Option.eq_none_iff_forall_ne_some]
        intro value hvalue
        have hlt := (List.pairwise_cons.1 h).1 name
          (List.mem_map.2 ⟨_, (lookup_eq_some_iff hrest name value).1 hvalue, rfl⟩)
        exact String.lt_irrefl name (hk ▸ hlt)
      rw [hnone, Option.none_or]
    · rw [if_neg hk, if_neg hk, Option.or_none]

/-- A value is found under the name with which it is an entry. -/
theorem find?_eq_some_iff (f : Fields α) (name : String) (value : α) :
    f.find? name = some value ↔ (name, value) ∈ f.toList :=
  lookup_eq_some_iff f.ascending_toList name value

/-- Under each of its keys a map has the value at that place. -/
theorem find?_key (f : Fields α) (i : Fin f.keys.length) :
    f.find? f.keys[i] = some (f.get i) := by
  rw [find?_eq_some_iff, toList, List.mem_ofFn]
  exact ⟨i, rfl⟩

/-- A name under which something is found is one of the keys. -/
theorem exists_key_of_find? {f : Fields α} {name : String} {value : α}
    (h : f.find? name = some value) :
    ∃ i : Fin f.keys.length, f.keys[i] = name ∧ f.get i = value := by
  rw [find?_eq_some_iff, toList, List.mem_ofFn] at h
  obtain ⟨i, hi⟩ := h
  exact ⟨i, congrArg Prod.fst hi, congrArg Prod.snd hi⟩

/-- No key stands twice in a map. -/
theorem nodup_keys (f : Fields α) : f.keys.Nodup := by
  refine f.ascending.imp ?_
  intro name name' h heq
  subst heq
  exact String.lt_irrefl name h

/-- The keys are the names under which something is found. -/
theorem mem_keys_iff (f : Fields α) (name : String) : name ∈ f.keys ↔ f.find? name ≠ none := by
  constructor
  · intro h
    obtain ⟨i, hi, rfl⟩ := List.getElem_of_mem h
    have hi := f.find?_key ⟨i, hi⟩
    exact fun hnone => Option.some_ne_none _ (hi.symm.trans hnone)
  · intro h
    obtain ⟨v, hv⟩ := Option.ne_none_iff_exists'.1 h
    obtain ⟨i, rfl, -⟩ := exists_key_of_find? hv
    exact List.getElem_mem i.isLt

/-- Maps with the same names have values under the same names. -/
theorem exists_find?_of_keys_eq {f g : Fields α} (h : f.keys = g.keys) {name : String} {value : α}
    (hvalue : f.find? name = some value) : ∃ other, g.find? name = some other := by
  obtain ⟨i, rfl, -⟩ := exists_key_of_find? hvalue
  have hi := g.find?_key (i.cast (by rw [h]))
  exact ⟨_, by simpa [h] using hi⟩

/-! ## Building -/

/-- The map with the given names and, in the same order, values. -/
def ofArray (keys : List String) (ascending : keys.Pairwise (· < ·)) (values : Array α)
    (h : keys.length = values.size) : Fields α :=
  ⟨keys, ascending, fun i => values[i.cast h]⟩

/-- The same names with other values. -/
def map (g : α → β) (f : Fields α) : Fields β :=
  ofArray f.keys f.ascending (Array.ofFn fun i => g (f.get i)) (by simp)

/-- A function of the values changes the entries one by one. -/
theorem toList_map (g : α → β) (f : Fields α) :
    (f.map g).toList = f.toList.map fun (k, v) => (k, g v) := by
  simp [toList, map, ofArray, Function.comp_def]

/-- Two functions of the values are one. -/
theorem map_map {γ : Type} (h : β → γ) (g : α → β) (f : Fields α) :
    (f.map g).map h = f.map fun v => h (g v) := by
  apply ext_toList
  simp only [toList_map, List.map_map, Function.comp_def]

/-- Functions that agree on all values of a map make the same map. -/
theorem map_congr {g g' : α → β} {f : Fields α} (h : ∀ i, g (f.get i) = g' (f.get i)) :
    f.map g = f.map g' := by
  simp only [map, h]

/-- What is found in the changed map is what was found, changed. -/
theorem find?_map (g : α → β) (f : Fields α) (name : String) :
    (f.map g).find? name = (f.find? name).map g := by
  rw [find?, find?, toList_map]
  induction f.toList with
  | nil => rfl
  | cons e rest ih =>
    obtain ⟨k, v⟩ := e
    rw [List.map_cons, lookup_cons_eq_ite, lookup_cons_eq_ite, ih]
    split <;> rfl

/-- The map with the given entries. -/
def ofAscending (entries : List (String × α)) (h : Ascending entries) : Fields α :=
  ofArray (entries.map Prod.fst) h (entries.map Prod.snd).toArray (by simp)

/-- Entries in order are those of the map that they make. -/
theorem toList_ofAscending (entries : List (String × α)) (h : Ascending entries) :
    (ofAscending entries h).toList = entries := by
  apply List.ext_getElem
  · simp [toList, ofAscending, ofArray]
  · intro i h₁ h₂
    simp only [toList, List.getElem_ofFn, ofAscending, ofArray]
    simp only [Fin.getElem_fin, Fin.val_cast, List.getElem_map, List.getElem_toArray]

/-- The entries of a search tree ascend. -/
theorem ascending_treeMap (t : Std.TreeMap String α) : Ascending t.toList := by
  have h : t.toList.map Prod.fst = t.keys := Std.TreeMap.map_fst_toList_eq_keys
  rw [Ascending, h]
  exact Std.TreeMap.ordered_keys.imp lt_of_compare

/-- The entries of a search tree. -/
def ofTreeMap (t : Std.TreeMap String α) : Fields α := ofAscending t.toList (ascending_treeMap t)

/-- The map has as many entries as the map. -/
theorem size_ofTreeMap (t : Std.TreeMap String α) : (ofTreeMap t).size = t.size := by
  rw [size, ← keys_toList, ofTreeMap, toList_ofAscending, List.length_map,
    Std.TreeMap.length_toList]

/-- In the map is found what is found in the map. -/
theorem find?_ofTreeMap (t : Std.TreeMap String α) (name : String) :
    (ofTreeMap t).find? name = t[name]? := by
  ext value
  rw [find?_eq_some_iff, ofTreeMap, toList_ofAscending]
  exact Std.TreeMap.mem_toList_iff_getElem?_eq_some

/-- The search tree of a list of entries, of which the last one with a name counts. -/
def treeOfList (entries : List (String × α)) : Std.TreeMap String α :=
  entries.foldl (fun t (name, value) => t.insert name value) ∅

/-- The last entry with a name is the first one from the end. -/
theorem getElem?_treeOfList (entries : List (String × α)) (name : String) :
    (treeOfList entries)[name]? = entries.reverse.lookup name := by
  suffices h : ∀ t : Std.TreeMap String α,
      (entries.foldl (fun t (name, value) => t.insert name value) t)[name]? =
        (entries.reverse.lookup name).or t[name]? by
    rw [treeOfList, h, Std.TreeMap.getElem?_emptyc, Option.or_none]
  induction entries with
  | nil => intro t; simp
  | cons e rest ih =>
    intro t
    obtain ⟨k, v⟩ := e
    rw [List.foldl_cons, ih, Std.TreeMap.getElem?_insert, List.reverse_cons, List.lookup_append,
      lookup_cons_eq_ite, List.lookup_nil, Option.or_assoc]
    by_cases h : name = k
    · simp [h]
    · simp [h, Ne.symm h]

/-- The map with the given entries, of which the last one with a name counts. -/
def ofList (entries : List (String × α)) : Fields α := ofTreeMap (treeOfList entries)

/-- Of several entries with one name the last one is found. -/
theorem find?_ofList (entries : List (String × α)) (name : String) :
    (ofList entries).find? name = entries.reverse.lookup name := by
  rw [ofList, find?_ofTreeMap, getElem?_treeOfList]

instance : Inhabited (Fields α) := ⟨ofList []⟩

end Fields

end TemplateExpr
