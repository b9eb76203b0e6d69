import HotRod.Proofs.KeyMap
import HotRod.Properties.Basic
set_option autoImplicit false

/-!
# Schema files in properties

Embedding a file changes the value of its own key and of no other; the embedded files are found under
the keys of their names. No key that means something to a configuration is the key of a file.
-/

namespace HotRod

theorem lastValue?_map_key {α : Type} {rename : String → String} (injective : rename.Injective)
    (key : String) (pairs : List (String × α)) :
    lastValue? (rename key) (pairs.map fun (name, value) => (rename name, value)) =
      lastValue? key pairs := by
  induction pairs with
  | nil => rfl
  | cons pair pairs ih =>
    obtain ⟨other, value⟩ := pair
    rw [List.map_cons, lastValue?_cons, lastValue?_cons, ih]
    simp [injective.eq_iff]

/-- After the prefix that all keys share, only the keys of schema files go on with a `p`, and only those
of caches have a dot after five letters. -/
theorem ClientKey.letters_text (key : ClientKey) :
    ∃ letters, key.text = String.ofList letters ∧ letters[25]? ≠ some 'p' ∧
      letters[30]? ≠ some '.' := by
  cases key <;> exact ⟨_, rfl, by decide⟩

namespace Properties

theorem letter_schemaKey (file : String) : (schemaKey file).toList[25]? = some 'p' := by
  have spelled : ∃ letters, schemaPrefix = String.ofList letters ∧ letters[25]? = some 'p' :=
    ⟨_, rfl, by decide⟩
  obtain ⟨letters, same, letter⟩ := spelled
  rw [schemaKey, same, String.toList_append, String.toList_ofList, List.getElem?_append_left, letter]
  exact (List.getElem?_eq_some_iff.mp letter).1

theorem schemaFile?_text (key : ClientKey) : schemaFile? key.text = none := by
  obtain ⟨letters, same, other, -⟩ := key.letters_text
  rw [Option.eq_none_iff_forall_ne_some]
  intro file named
  have letter := letter_schemaKey file
  rw [← schemaFile?_eq_some_iff.mp named, same, String.toList_ofList] at letter
  exact other letter

/-- A bag with files embedded, where a later file replaces an earlier one of its name. -/
def embed (bag : Properties) (files : List (String × String)) : Properties :=
  bag.extend (files.map fun (name, contents) => (schemaKey name, contents))

theorem schemaKey_injective : schemaKey.Injective := by
  intro file other same
  have found := schemaFile?_eq_some_iff.mpr same
  rw [schemaFile?_eq_some_iff.mpr rfl] at found
  exact Option.some.inj found

theorem getElem?_embed_schemaKey (bag : Properties) (files : List (String × String)) (name : String) :
    (bag.embed files)[schemaKey name]? = (lastValue? name files).or bag[schemaKey name]? := by
  rw [embed, KeyMap.getElem?_extend, lastValue?_map_key schemaKey_injective]

theorem getElem?_embed_of_schemaFile?_eq_none {key : String} (plain : schemaFile? key = none)
    (bag : Properties) (files : List (String × String)) : (bag.embed files)[key]? = bag[key]? := by
  rw [embed, KeyMap.getElem?_extend]
  cases found : lastValue? key (files.map fun (name, contents) => (schemaKey name, contents)) with
  | none => rfl
  | some contents =>
    obtain ⟨file, -, same⟩ := List.mem_map.mp (mem_of_lastValue? found)
    simp [schemaFile?_eq_some_iff.mpr (congrArg Prod.fst same).symm] at plain

theorem mem_schemaFiles {bag : Properties} {name contents : String} :
    (name, contents) ∈ bag.schemaFiles ↔ bag[schemaKey name]? = some contents := by
  simp only [schemaFiles, List.mem_filterMap, Option.map_eq_some_iff, Prod.mk.injEq, Prod.exists]
  constructor
  · rintro ⟨key, value, member, file, named, rfl, rfl⟩
    rw [← schemaFile?_eq_some_iff.mp named]
    exact Std.ExtTreeMap.mem_toList_iff_getElem?_eq_some.mp member
  · intro stored
    exact ⟨schemaKey name, contents, Std.ExtTreeMap.mem_toList_iff_getElem?_eq_some.mpr stored, name,
      schemaFile?_eq_some_iff.mpr rfl, rfl, rfl⟩

@[simp] theorem lookup_schemaFiles (bag : Properties) (name : String) :
    bag.schemaFiles.lookup name = bag[schemaKey name]? :=
  lookup_eq_of_mem_iff fun _ => mem_schemaFiles

@[simp] theorem lastValue?_schemaFiles (bag : Properties) (name : String) :
    lastValue? name bag.schemaFiles = bag[schemaKey name]? :=
  lookup_eq_of_mem_iff fun _ => List.mem_reverse.trans mem_schemaFiles

end Properties

end HotRod
