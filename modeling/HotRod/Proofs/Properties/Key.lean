import HotRod.Proofs.Properties
set_option autoImplicit false

/-!
# Keys of cache settings

The key of a cache setting is read as that setting of that cache, although names may hold dots: no
setting's ending is the end of another one, and the key of a setting of the whole client never starts
as a cache's does.
-/

namespace HotRod

def CacheKey.ending (key : CacheKey) : List Char := '.' :: key.text.toList

/-- No ending is the end of another one. -/
theorem CacheKey.eq_of_ending_suffix {key other : CacheKey} (ends : key.ending <:+ other.ending) :
    key = other := by
  revert ends
  cases key <;> cases other <;> decide +kernel

theorem ClientKey.not_cachePrefix (key : ClientKey) : ¬ cachePrefix.toList <+: key.text.toList := by
  obtain ⟨letters, same, -, other⟩ := key.letters_text
  have letter : cachePrefix.toList[30]? = some '.' := by decide +kernel
  rw [same, String.toList_ofList]
  intro begins
  exact other (getElem?_of_beginning begins letter)

namespace PropertyKey

theorem toList_text_cache (name : String) (key : CacheKey) :
    (cache name key).text.toList = cachePrefix.toList ++ (name.toList ++ key.ending) := by
  simp [text, CacheKey.ending, List.append_assoc]

theorem text_cache_injective {name other : String} {key otherKey : CacheKey}
    (same : (cache name key).text = (cache other otherKey).text) : name = other ∧ key = otherKey := by
  have letters := congrArg String.toList same
  rw [toList_text_cache, toList_text_cache, List.append_cancel_left_eq] at letters
  have ends : key.ending <:+ other.toList ++ otherKey.ending := letters ▸ List.suffix_append _ _
  obtain rfl : key = otherKey := by
    rcases List.suffix_or_suffix_of_suffix ends (List.suffix_append _ _) with within | around
    · exact CacheKey.eq_of_ending_suffix within
    · exact (CacheKey.eq_of_ending_suffix around).symm
  exact ⟨String.toList_inj.mp (List.append_cancel_right letters), rfl⟩

theorem cacheNamed?_eq_some_iff {rest : List Char} {key : CacheKey} {name : String} :
    cacheNamed? rest key = some name ↔ name ≠ "" ∧ rest = name.toList ++ key.ending := by
  have spelled : rest = name.toList ++ key.ending ↔
      Text.withoutSuffix? key.ending rest = some name.toList := Text.withoutSuffix?_eq_some_iff.symm
  rw [spelled, cacheNamed?, ← CacheKey.ending]
  rcases Text.withoutSuffix? key.ending rest with _ | _ | ⟨c, letters⟩
  · simp
  · simp only [reduceCtorEq, false_iff, not_and, Option.some.injEq]
    exact fun nonempty empty => nonempty (String.toList_eq_nil_iff.mp empty.symm)
  · rw [Option.some.injEq, Option.some.injEq]
    constructor
    · rintro rfl
      exact ⟨by simp [← String.toList_eq_nil_iff], String.toList_ofList.symm⟩
    · rintro ⟨-, same⟩
      rw [same, String.ofList_toList]

/-- A key is read as a setting of a cache exactly when it is the key of that setting. -/
theorem ofText?_eq_cache_iff {text : String} {name : String} {key : CacheKey} :
    ofText? text = some (cache name key) ↔ name ≠ "" ∧ text = (cache name key).text := by
  have sound {other : String} {found : CacheKey} (read : ofText? text = some (cache other found)) :
      other ≠ "" ∧ text = (cache other found).text := by
    unfold ofText? at read
    split at read
    · cases Option.some.inj read
    · split at read
      · contradiction
      · next rest cut =>
        obtain ⟨_, -, hit⟩ := List.exists_of_findSome?_eq_some read
        obtain ⟨_, named, same⟩ := Option.map_eq_some_iff.mp hit
        obtain ⟨rfl, rfl⟩ := PropertyKey.cache.inj same
        obtain ⟨nonempty, rfl⟩ := cacheNamed?_eq_some_iff.mp named
        refine ⟨nonempty, String.toList_inj.mp ?_⟩
        rw [toList_text_cache, Text.withoutPrefix?_eq_some_iff.mp cut]
  constructor
  · exact sound
  · rintro ⟨nonempty, spelled⟩
    have beginning : text.toList = cachePrefix.toList ++ (name.toList ++ key.ending) := by
      rw [spelled, toList_text_cache]
    have plain : ClientKey.ofText? text = none := by
      rw [Option.eq_none_iff_forall_ne_some]
      intro found read
      rw [ClientKey.ofText?_eq_some_iff.mp read] at beginning
      exact found.not_cachePrefix ⟨_, beginning.symm⟩
    have cut := Text.withoutPrefix?_eq_some_iff.mpr beginning
    have hit : cacheNamed? (name.toList ++ key.ending) key = some name :=
      cacheNamed?_eq_some_iff.mpr ⟨nonempty, rfl⟩
    have hits : (CacheKey.all.findSome? fun other =>
        (cacheNamed? (name.toList ++ key.ending) other).map (cache · other)).isSome := by
      refine List.findSome?_isSome_iff.mpr ⟨key, key.mem_all, ?_⟩
      rw [hit]
      rfl
    have read : ∃ other found, ofText? text = some (cache other found) := by
      simp only [ofText?, plain, cut]
      obtain ⟨value, given⟩ := Option.isSome_iff_exists.mp hits
      obtain ⟨found, -, mapped⟩ := List.exists_of_findSome?_eq_some given
      obtain ⟨other, -, rfl⟩ := Option.map_eq_some_iff.mp mapped
      exact ⟨other, found, given⟩
    obtain ⟨other, found, read⟩ := read
    obtain ⟨rfl, rfl⟩ := text_cache_injective (spelled.symm.trans (sound read).2)
    exact read

end PropertyKey

end HotRod
