import HotRod.Proofs.Client.Assembly
import HotRod.Proofs.Client.CacheProperties
set_option autoImplicit false

/-!
# What the key of a cache setting changes

The key of a setting of a cache changes that setting of that cache and nothing else, or it is refused.
No two settings have a key in common, whatever the names of their caches hold, and a key that only
begins like one changes nothing.
-/

namespace HotRod

open HotRod.Action

def CacheSetting.keys {α : Type} (setting : CacheSetting α) : List CacheKey :=
  setting.readings.map Prod.fst

theorem CacheSetting.keySource?_eq_none_iff {α : Type} (setting : CacheSetting α) {key : CacheKey}
    {text : String} : setting.keySource? key text = none ↔ key ∉ setting.keys := by
  cases setting <;> cases key <;> simp [keySource?, readings, keys]

theorem CacheKey.exists_source (key : CacheKey) (text : String) :
    ∃ (α : Type) (setting : CacheSetting α) (source : CacheSource α),
      setting.keySource? key text = some source := by
  cases key
  case configurationUri => exact ⟨_, .definition, .file text, rfl⟩
  case configuration => exact ⟨_, .definition, .text text, rfl⟩
  case templateName => exact ⟨_, .templateName, .text text, rfl⟩
  case nearCacheMode => exact ⟨_, .nearCacheMode, .text text, rfl⟩
  case nearCacheMaxEntries => exact ⟨_, .nearCacheMaxEntries, .text text, rfl⟩
  case bloomFilter => exact ⟨_, .bloomFilter, .text text, rfl⟩

/-- How the text of a key is refused: with the key, or with the cache and the file. -/
inductive CacheKey.Refuses (files : Files) (name : String) (key : CacheKey) (text : String) :
    ClientError → Prop
  | value {α : Type} {setting : CacheSetting α} {fault : ValueFault} : key ∈ setting.keys →
      setting.read text = .error fault →
      Refuses files name key text (.invalidProperty (PropertyKey.cache name key).text text fault)
  | file {fault : FileFault} : key = .configurationUri → files.read text = .error fault →
      Refuses files name key text (.cacheConfigurationResource name text fault)

namespace CacheDraft

/-- A cache after the text of a key was taken: the setting that the key is for has the value of its
source, and every other one is as it was. The file of a definition is recorded. -/
structure Takes (files : Files) (key : CacheKey) (text : String) (before after : CacheDraft) :
    Prop where
  set : ∃ (α : Type) (setting : CacheSetting α) (source : CacheSource α) (value : α),
    setting.keySource? key text = some source ∧ setting.resolve files source = .ok value ∧
      after.value? setting = some value
  kept : ∀ {α : Type} (setting : CacheSetting α), key ∉ setting.keys →
    after.value? setting = before.value? setting
  recorded : after.definitionFile =
    if key = .configurationUri then some text else before.definitionFile

variable {files : Files} {key : CacheKey} {text : String} {draft changed : CacheDraft}

theorem takes_of_set (set : draft.set files text key = .ok changed) :
    draft.Takes files key text changed where
  set := by
    obtain ⟨α, setting, source, gives⟩ := key.exists_source text
    have settled := setting.settle_set set
    rw [gives] at settled
    obtain ⟨value, resolved, same⟩ := map_eq_ok_iff.mp settled
    exact ⟨α, setting, source, value, gives, resolved, same.symm⟩
  kept setting other := by
    have settled := setting.settle_set set
    rw [setting.keySource?_eq_none_iff.mpr other] at settled
    exact (Except.ok.inj settled).symm
  recorded := by
    cases key
    case configurationUri =>
      obtain ⟨contents, -, rfl⟩ := map_eq_ok_iff.mp (mapError_eq_ok_iff.mp set)
      rfl
    case configuration | templateName =>
      cases set
      rfl
    case nearCacheMode | nearCacheMaxEntries | bloomFilter =>
      obtain ⟨value, -, rfl⟩ := map_eq_ok_iff.mp (mapError_eq_ok_iff.mp set)
      rfl

theorem refuses_of_set {fault : CacheFault} (refused : draft.set files text key = .error fault)
    (name : String) :
    key.Refuses files name text (fault.toClientError (PropertyKey.cache name key).text name text) := by
  cases key
  case configurationUri =>
    obtain ⟨missing, unread, rfl⟩ := mapError_eq_error_iff.mp refused
    exact .file rfl (map_eq_error_iff.mp unread)
  case configuration | templateName => cases refused
  case nearCacheMode =>
    obtain ⟨wrong, unread, rfl⟩ := mapError_eq_error_iff.mp refused
    have listed : CacheKey.nearCacheMode ∈ CacheSetting.nearCacheMode.keys := List.mem_singleton_self _
    exact .value listed (map_eq_error_iff.mp unread)
  case nearCacheMaxEntries =>
    obtain ⟨wrong, unread, rfl⟩ := mapError_eq_error_iff.mp refused
    have listed : CacheKey.nearCacheMaxEntries ∈ CacheSetting.nearCacheMaxEntries.keys :=
      List.mem_singleton_self _
    exact .value listed (map_eq_error_iff.mp unread)
  case bloomFilter =>
    obtain ⟨wrong, unread, rfl⟩ := mapError_eq_error_iff.mp refused
    have listed : CacheKey.bloomFilter ∈ CacheSetting.bloomFilter.keys := List.mem_singleton_self _
    exact .value listed (map_eq_error_iff.mp unread)

end CacheDraft

namespace Draft
variable {files : Files} {draft : Draft} {property text : String}

/-- Only the key of a setting of a cache with a name is of use among the keys with their prefix. -/
theorem ofText?_eq_none_of_cachePrefix (begins : cachePrefix.toList <+: property.toList)
    (other : ∀ name key, name ≠ "" → property ≠ (PropertyKey.cache name key).text) :
    PropertyKey.ofText? property = none := by
  rw [Option.eq_none_iff_forall_ne_some]
  rintro (client | ⟨name, key⟩) read
  · rw [PropertyKey.ofText?_eq_client_iff.mp read] at begins
    exact client.not_cachePrefix begins
  · obtain ⟨nonempty, spelled⟩ := PropertyKey.ofText?_eq_cache_iff.mp read
    exact other name key nonempty spelled

/-- The text of a key of a cache with a name changes only what the key is for in that cache, or it is
refused. Keys of two settings or of two caches differ, and any other key with their prefix does nothing. -/
theorem cache_keys_are_unambiguous (files : Files) (draft : Draft) :
    (∀ (name : String) (key : CacheKey) (text : String), name ≠ "" →
      let done := (applyProperty files (PropertyKey.cache name key).text text).run draft
      done.state.clientPart = draft.clientPart ∧
        (∀ other, other ≠ name → done.state.caches[other]? = draft.caches[other]?) ∧
        ((∃ cache, done.result = .ok () ∧ done.state.caches[name]? = some cache ∧
            (draft.cache name).Takes files key text cache) ∨
          ∃ error, done.result = .error error ∧ done.state.cache name = draft.cache name ∧
            key.Refuses files name text error)) ∧
      (∀ (name other : String) (key otherKey : CacheKey),
        (PropertyKey.cache name key).text = (PropertyKey.cache other otherKey).text →
          name = other ∧ key = otherKey) ∧
      ∀ property text : String, cachePrefix.toList <+: property.toList →
        (∀ name key, name ≠ "" → property ≠ (PropertyKey.cache name key).text) →
          (applyProperty files property text).run draft = ⟨draft, [], .ok ()⟩ := by
  refine ⟨?_, fun name other key otherKey => PropertyKey.text_cache_injective, ?_⟩
  · intro name key text nonempty done
    have meaning : PropertyKey.ofText? (PropertyKey.cache name key).text = some (.cache name key) :=
      PropertyKey.ofText?_eq_cache_iff.mpr ⟨nonempty, rfl⟩
    have ran : done = _ := run_applyProperty_of_cache meaning
    have framed (cache : CacheDraft) (state : done.state = draft.setCache name cache) :
        done.state.clientPart = draft.clientPart ∧
          ∀ other, other ≠ name → done.state.caches[other]? = draft.caches[other]? := by
      rw [state]
      exact ⟨rfl, fun other apart => draft.getElem?_setCache_of_ne apart cache⟩
    cases set : (draft.cache name).set files text key with
    | ok cache =>
      simp only [set] at ran
      obtain ⟨client, others⟩ := framed cache (by rw [ran])
      refine ⟨client, others, .inl ⟨cache, by rw [ran], ?_, CacheDraft.takes_of_set set⟩⟩
      rw [ran]
      exact draft.getElem?_setCache_self name cache
    | error fault =>
      simp only [set] at ran
      obtain ⟨client, others⟩ := framed (draft.cache name) (by rw [ran, touchCache])
      refine ⟨client, others, .inr ⟨_, by rw [ran], ?_, CacheDraft.refuses_of_set set name⟩⟩
      rw [ran, touchCache, cache_setCache, if_pos rfl]
  · intro property text begins other
    exact run_applyProperty_of_unknown (ofText?_eq_none_of_cachePrefix begins other)

/-- A cache whose name ends as a setting starts has a key of its own, and a cache without a name none. -/
theorem near_cache_key_sets_cache :
    let done := (applyProperty .missing (cachePrefix ++ "a.near_cache.near_cache.mode")
      "INVALIDATED").run {}
    (∃ cache, done.state.caches["a.near_cache"]? = some cache ∧
        ({} : CacheDraft).Takes .missing .nearCacheMode "INVALIDATED" cache) ∧
      done.state.caches["a"]? = none ∧
      (PropertyKey.cache "a.near_cache" .nearCacheMode).text ≠
        (PropertyKey.cache "a" .nearCacheMode).text ∧
      (applyProperty .missing (cachePrefix ++ ".near_cache.mode") "INVALIDATED").run {} =
        ⟨{}, [], .ok ()⟩ := by
  obtain ⟨effect, apart, inert⟩ := cache_keys_are_unambiguous .missing {}
  have spelled : (PropertyKey.cache "a.near_cache" .nearCacheMode).text =
      cachePrefix ++ "a.near_cache.near_cache.mode" := by decide +kernel
  have law := effect "a.near_cache" .nearCacheMode "INVALIDATED" (by decide)
  rw [spelled] at law
  obtain ⟨-, others, outcome⟩ := law
  refine ⟨?_, others "a" (by decide), fun same => ?_, ?_⟩
  · rcases outcome with ⟨cache, -, there, takes⟩ | ⟨error, failed, -⟩
    · exact ⟨cache, there, takes⟩
    · have succeeds : ((applyProperty .missing (cachePrefix ++ "a.near_cache.near_cache.mode")
          "INVALIDATED").run {}).result.toBool = true := by decide +kernel
      rw [failed] at succeeds
      contradiction
  · have equal : "a.near_cache" = "a" := (apart _ _ _ _ same).1
    contradiction
  · refine inert _ "INVALIDATED" (by decide +kernel) fun name key nonempty spelled => ?_
    have unread : PropertyKey.ofText? (cachePrefix ++ ".near_cache.mode") = none := by decide +kernel
    rw [PropertyKey.ofText?_eq_cache_iff.mpr ⟨nonempty, spelled⟩] at unread
    contradiction

end Draft

end HotRod
