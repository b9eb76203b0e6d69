import Std.Data.ExtTreeMap
import Std.Data.ExtTreeSet
set_option autoImplicit false

/-!
# Maps with text keys

Properties, caches, clients and schema files are maps from texts, listed in the order of their keys.
Texts are ordered by code points, which is also the order of their UTF-8 bytes. Two maps are equal
when every key has the same value in both.
-/

namespace HotRod

/-- A finite map from texts, in the order of its keys. -/
abbrev KeyMap (α : Type) := Std.ExtTreeMap String α

/-- A finite set of texts, in order. -/
abbrev KeySet := Std.ExtTreeSet String

namespace KeyMap
variable {α : Type}

/-- The map of a list of pairs, where a later pair replaces an earlier one of its key. -/
def ofPairs (pairs : List (String × α)) : KeyMap α :=
  pairs.foldl (fun entries (key, value) => entries.insert key value) ∅

def extend (entries : KeyMap α) (pairs : List (String × α)) : KeyMap α :=
  pairs.foldl (fun entries (key, value) => entries.insert key value) entries

@[simp] theorem extend_nil (entries : KeyMap α) : entries.extend [] = entries := rfl

@[simp] theorem extend_cons (entries : KeyMap α) (key : String) (value : α)
    (pairs : List (String × α)) :
    entries.extend ((key, value) :: pairs) = KeyMap.extend (entries.insert key value) pairs := rfl

theorem ofPairs_eq_extend (pairs : List (String × α)) :
    ofPairs pairs = extend ∅ pairs := rfl

end KeyMap

theorem KeySet.mem_foldl_insert {key : String} {keys : List String} {start : KeySet} :
    key ∈ keys.foldl Std.ExtTreeSet.insert start ↔ key ∈ start ∨ key ∈ keys := by
  induction keys generalizing start with
  | nil => simp
  | cons other keys ih =>
    simp only [List.foldl_cons, ih, Std.ExtTreeSet.mem_insert, List.mem_cons,
      Std.LawfulEqCmp.compare_eq_iff_eq]
    grind

end HotRod
