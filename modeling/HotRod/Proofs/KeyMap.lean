import HotRod.KeyMap
set_option autoImplicit false

/-!
# Maps and lists of pairs

A list of pairs may name a key more than once. Written over a map, the last pair of a key counts; where
each name is to stay once, the first. The list of a map names every key once, so that both are the
same there.
-/

namespace HotRod
variable {α : Type}

/-- The value of the last pair of a key; of the first it is `List.lookup`. -/
def lastValue? (key : String) (pairs : List (String × α)) : Option α := pairs.reverse.lookup key

@[simp] theorem lastValue?_nil (key : String) : lastValue? key ([] : List (String × α)) = none := rfl

theorem lastValue?_append (key : String) (pairs more : List (String × α)) :
    lastValue? key (pairs ++ more) = (lastValue? key more).or (lastValue? key pairs) := by
  rw [lastValue?, List.reverse_append, List.lookup_append]
  rfl

theorem lastValue?_cons (key other : String) (value : α) (pairs : List (String × α)) :
    lastValue? key ((other, value) :: pairs) =
      (lastValue? key pairs).or (if other = key then some value else none) := by
  rw [← List.singleton_append, lastValue?_append]
  by_cases same : other = key
  · simp [lastValue?, same]
  · have different : (key == other) = false := beq_false_of_ne (Ne.symm same)
    simp [lastValue?, List.lookup_cons, same, different]

theorem mem_of_lookup {key : String} {pairs : List (String × α)} {value : α}
    (h : pairs.lookup key = some value) : (key, value) ∈ pairs := by
  obtain ⟨before, after, rfl, -⟩ := List.lookup_eq_some_iff.mp h
  simp

theorem mem_of_lastValue? {key : String} {pairs : List (String × α)} {value : α}
    (h : lastValue? key pairs = some value) : (key, value) ∈ pairs :=
  List.mem_reverse.mp (mem_of_lookup h)

theorem lookup_isSome_iff_mem_keys {key : String} {pairs : List (String × α)} :
    (pairs.lookup key).isSome ↔ key ∈ pairs.map Prod.fst := by
  simp only [List.lookup_isSome_iff, beq_iff_eq, List.mem_map]
  exact exists_congr fun pair => and_congr_right fun _ => eq_comm

theorem lastValue?_isSome_iff_mem_keys {key : String} {pairs : List (String × α)} :
    (lastValue? key pairs).isSome ↔ key ∈ pairs.map Prod.fst := by
  rw [lastValue?, lookup_isSome_iff_mem_keys]
  simp

/-- A key whose pairs all have one value is looked up as that value. -/
theorem lookup_eq_of_mem_iff {key : String} {pairs : List (String × α)} {stored : Option α}
    (h : ∀ value, (key, value) ∈ pairs ↔ stored = some value) : pairs.lookup key = stored := by
  cases found : pairs.lookup key with
  | some value => exact ((h value).mp (mem_of_lookup found)).symm
  | none =>
    cases stored with
    | none => rfl
    | some value =>
      have absent := List.lookup_eq_none_iff.mp found (key, value) ((h value).mpr rfl)
      simp at absent

theorem lastValue?_map_snd {β : Type} (change : α → β) (key : String) (pairs : List (String × α)) :
    lastValue? key (pairs.map fun (name, value) => (name, change value)) =
      (lastValue? key pairs).map change := by
  induction pairs with
  | nil => rfl
  | cons pair pairs ih =>
    obtain ⟨name, value⟩ := pair
    rw [List.map_cons, lastValue?_cons, lastValue?_cons, ih, Option.map_or]
    by_cases same : name = key <;> simp [same]

theorem lastValue?_map {β : Type} (name : β → String) (value : β → α) (key : String) (items : List β) :
    lastValue? key (items.map fun item => (name item, value item)) =
      (items.reverse.find? (name · = key)).map value := by
  induction items with
  | nil => rfl
  | cons item items ih =>
    rw [List.map_cons, lastValue?_cons, ih, List.reverse_cons, List.find?_append]
    by_cases same : name item = key <;> simp [same]

theorem lastValue?_eq_lookup {pairs : List (String × α)}
    (distinct : (pairs.map Prod.fst).Nodup) (key : String) :
    lastValue? key pairs = pairs.lookup key := by
  refine lookup_eq_of_mem_iff fun value => List.mem_reverse.trans ⟨fun member => ?_, mem_of_lookup⟩
  induction pairs with
  | nil => contradiction
  | cons pair pairs ih =>
    obtain ⟨name, first⟩ := pair
    obtain ⟨new, rest⟩ := List.nodup_cons.mp distinct
    rw [List.lookup_cons]
    rcases List.mem_cons.mp member with same | later
    · obtain ⟨rfl, rfl⟩ := Prod.mk.inj same
      simp
    · have apart : key ≠ name := fun same => new (same ▸ List.mem_map.mpr ⟨_, later, rfl⟩)
      rw [beq_false_of_ne apart]
      exact ih rest later

theorem findSome?_id_cons (value? : Option α) (others : List (Option α)) :
    (value? :: others).findSome? id = value?.or (others.findSome? id) := by
  cases value? <;> rfl

theorem getElem?_of_beginning {items more : List α} {n : Nat} {item : α}
    (grown : items <+: more) (there : items[n]? = some item) : more[n]? = some item := by
  obtain ⟨rest, rfl⟩ := grown
  rwa [List.getElem?_append_left (List.getElem?_eq_some_iff.mp there).1]

namespace KeyMap

theorem getElem?_insert (entries : KeyMap α) (key other : String) (value : α) :
    (entries.insert key value)[other]? = if key = other then some value else entries[other]? := by
  simp [Std.ExtTreeMap.getElem?_insert]

theorem insert_insert (entries : KeyMap α) (key : String) (value later : α) :
    (entries.insert key value).insert key later = entries.insert key later := by
  refine Std.ExtTreeMap.ext_getElem? fun other => ?_
  by_cases same : key = other <;> simp [getElem?_insert, same]

theorem mem_insert_iff {entries : KeyMap α} {key other : String} {value : α} :
    other ∈ entries.insert key value ↔ other = key ∨ other ∈ entries := by
  rw [Std.ExtTreeMap.mem_insert, Std.LawfulEqCmp.compare_eq_iff_eq, eq_comm]

theorem insert_getD {entries : KeyMap α} {key : String} (present : entries.contains key = true)
    (fallback : α) : entries.insert key (entries[key]?.getD fallback) = entries := by
  refine Std.ExtTreeMap.ext_getElem? fun other => ?_
  rw [getElem?_insert]
  by_cases same : key = other
  · subst same
    rw [Std.ExtTreeMap.contains_eq_isSome_getElem?] at present
    obtain ⟨value, found⟩ := Option.isSome_iff_exists.mp present
    rw [if_pos rfl, found, Option.getD_some]
  · rw [if_neg same]

theorem getElem?_eq_of_getD {entries others : KeyMap α} {key : String} {fallback : α}
    (mem : key ∈ entries ↔ key ∈ others)
    (same : entries[key]?.getD fallback = others[key]?.getD fallback) :
    entries[key]? = others[key]? := by
  rw [Std.ExtTreeMap.mem_iff_isSome_getElem?, Std.ExtTreeMap.mem_iff_isSome_getElem?] at mem
  cases left : entries[key]? <;> cases right : others[key]? <;> simp_all

/-- Written over a map, the last pair of a key counts. -/
theorem getElem?_extend (entries : KeyMap α) (pairs : List (String × α)) (key : String) :
    (entries.extend pairs)[key]? = (lastValue? key pairs).or entries[key]? := by
  induction pairs generalizing entries with
  | nil => simp
  | cons pair pairs ih =>
    obtain ⟨other, value⟩ := pair
    rw [extend_cons, ih, getElem?_insert, lastValue?_cons]
    by_cases same : other = key <;> simp [same]

theorem extend_extend (entries : KeyMap α) (pairs : List (String × α)) :
    (entries.extend pairs).extend pairs = entries.extend pairs := by
  refine Std.ExtTreeMap.ext_getElem? fun key => ?_
  rw [getElem?_extend, getElem?_extend]
  cases lastValue? key pairs <;> rfl

@[simp] theorem getElem?_ofPairs (pairs : List (String × α)) (key : String) :
    (ofPairs pairs)[key]? = lastValue? key pairs := by
  simp [ofPairs_eq_extend, getElem?_extend]

@[simp] theorem lastValue?_toList (entries : KeyMap α) (key : String) :
    lastValue? key entries.toList = entries[key]? :=
  lookup_eq_of_mem_iff fun _ =>
    List.mem_reverse.trans Std.ExtTreeMap.mem_toList_iff_getElem?_eq_some

theorem extend_toList (entries : KeyMap α) : KeyMap.extend ∅ entries.toList = entries := by
  refine Std.ExtTreeMap.ext_getElem? fun key => ?_
  rw [getElem?_extend, lastValue?_toList, Std.ExtTreeMap.getElem?_empty, Option.or_none]

theorem mem_map_snd_toList_iff {entries : KeyMap α} {value : α} :
    value ∈ entries.toList.map Prod.snd ↔ ∃ key : String, entries[key]? = some value := by
  rw [List.mem_map]
  constructor
  · rintro ⟨⟨key, _⟩, listed, rfl⟩
    exact ⟨key, Std.ExtTreeMap.mem_toList_iff_getElem?_eq_some.mp listed⟩
  · rintro ⟨key, there⟩
    exact ⟨(key, value), Std.ExtTreeMap.mem_toList_iff_getElem?_eq_some.mpr there, rfl⟩

theorem size_eq_length {entries : KeyMap α} {names : List String}
    (distinct : names.Nodup) (same : ∀ key, key ∈ names ↔ key ∈ entries) :
    entries.size = names.length := by
  have listed : entries.keys.Perm names := by
    apply (List.perm_ext_iff_of_nodup Std.ExtTreeMap.nodup_keys distinct).mpr
    intro key
    exact Std.ExtTreeMap.mem_keys.trans (same key).symm
  rw [← Std.ExtTreeMap.length_keys, listed.length_eq]

theorem size_extend_empty {pairs : List (String × α)}
    (distinct : (pairs.map Prod.fst).Nodup) : (extend ∅ pairs).size = pairs.length := by
  rw [size_eq_length distinct, List.length_map]
  intro key
  rw [Std.ExtTreeMap.mem_iff_isSome_getElem?, getElem?_extend, Std.ExtTreeMap.getElem?_empty,
    Option.or_none, lastValue?_isSome_iff_mem_keys]

section
variable {β : Type} (change : String → α → β)

theorem map_insert (entries : KeyMap α) (key : String) (value : α) :
    (entries.insert key value).map change = (entries.map change).insert key (change key value) := by
  refine Std.ExtTreeMap.ext_getElem? fun other => ?_
  rw [Std.ExtTreeMap.getElem?_map, getElem?_insert, getElem?_insert, Std.ExtTreeMap.getElem?_map]
  by_cases same : key = other <;> simp [same]

theorem map_extend (entries : KeyMap α) (pairs : List (String × α)) :
    (entries.extend pairs).map change =
      KeyMap.extend (entries.map change) (pairs.map fun (key, value) => (key, change key value)) := by
  induction pairs generalizing entries with
  | nil => rfl
  | cons pair pairs ih => rw [extend_cons, ih, map_insert, List.map_cons, extend_cons]

theorem map_empty : Std.ExtTreeMap.map change (∅ : KeyMap α) = ∅ := by
  refine Std.ExtTreeMap.ext_getElem? fun key => ?_
  rw [Std.ExtTreeMap.getElem?_map, Std.ExtTreeMap.getElem?_empty, Std.ExtTreeMap.getElem?_empty,
    Option.map_none]

theorem map_ofPairs (pairs : List (String × α)) :
    (ofPairs pairs).map change = ofPairs (pairs.map fun (key, value) => (key, change key value)) := by
  rw [ofPairs_eq_extend, map_extend, map_empty, ofPairs_eq_extend]

end

end KeyMap

end HotRod
