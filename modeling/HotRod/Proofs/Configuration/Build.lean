import HotRod.Configuration.Draft
import HotRod.Proofs.Action
import HotRod.Proofs.KeyMap
import HotRod.Proofs.Server.Address
set_option autoImplicit false

/-!
# Drafts that can be built

Building refuses a bloom filter over a near cache without a bound, and authentication with nothing to
authenticate with, and nothing else. What is built is within both limits, and it has the servers and
the properties of its draft.
-/

namespace HotRod

/-- With a bloom filter, the near cache has a bound; there is none unless it is set. -/
def CacheDraft.Bounded (draft : CacheDraft) : Prop :=
  ¬ (draft.bloomFilter = some true ∧ draft.nearCacheMaxEntries.getD (-1) ≤ 0)

def CacheConfiguration.Bounded (cache : CacheConfiguration) : Prop :=
  ¬ (cache.bloomFilter = true ∧ cache.nearCacheMaxEntries ≤ 0)

/-- Authentication that is enabled has a user, a handler or an identity from outside. Unless it is set,
it is enabled with a user or a handler. -/
def AuthenticationDraft.Identified (draft : AuthenticationDraft) : Prop :=
  ¬ (draft.enabled.getD (draft.username.isSome || draft.callbackHandler.isSome) = true ∧
    draft.username = none ∧ draft.callbackHandler = none ∧
    (draft.mechanism.getD "SCRAM-SHA-512").toLower ≠ "external")

def Authentication.Identified (authentication : Authentication) : Prop :=
  ¬ (authentication.enabled = true ∧ authentication.username = none ∧
    authentication.callbackHandler = none ∧ authentication.mechanism.toLower ≠ "external")

namespace CacheDraft
variable {name : String} {draft : CacheDraft} {cache : CacheConfiguration}

theorem refused_iff :
    (draft.usesBloomFilter && draft.maxEntries ≤ 0) = true ↔
      draft.bloomFilter = some true ∧ draft.nearCacheMaxEntries.getD (-1) ≤ 0 := by
  rw [Bool.and_eq_true, decide_eq_true_iff]
  refine and_congr_left fun _ => ?_
  rcases draft.bloomFilter.eq_none_or_eq_some with unset | ⟨enabled, set⟩
  · simp [usesBloomFilter, unset]
  · simp [usesBloomFilter, set]

theorem exists_build_iff : (∃ cache, draft.build name = .ok cache) ↔ draft.Bounded := by
  unfold build
  by_cases refused : (draft.usesBloomFilter && draft.maxEntries ≤ 0) = true
  · rw [if_pos refused]
    exact iff_of_false nofun (fun accepted => accepted (refused_iff.mp refused))
  · rw [if_neg refused]
    exact iff_of_true ⟨_, rfl⟩ (fun fault => refused (refused_iff.mpr fault))

theorem bounded_of_build (built : draft.build name = .ok cache) : cache.Bounded := by
  unfold build at built
  by_cases refused : (draft.usesBloomFilter && draft.maxEntries ≤ 0) = true
  · rw [if_pos refused] at built
    contradiction
  · rw [if_neg refused] at built
    cases built
    simpa [CacheConfiguration.Bounded] using refused

theorem definition_of_build (built : draft.build name = .ok cache) :
    cache.definition = draft.definition ∧ cache.definitionFile = draft.definitionFile := by
  unfold build at built
  by_cases refused : (draft.usesBloomFilter && draft.maxEntries ≤ 0) = true
  · rw [if_pos refused] at built
    contradiction
  · rw [if_neg refused] at built
    cases built
    exact ⟨rfl, rfl⟩

end CacheDraft

namespace AuthenticationDraft
variable {draft : AuthenticationDraft} {authentication : Authentication}

theorem refused_iff :
    (draft.isEnabled && !draft.hasCredentials && !draft.isExternal) = true ↔
      draft.enabled.getD (draft.username.isSome || draft.callbackHandler.isSome) = true ∧
        draft.username = none ∧ draft.callbackHandler = none ∧
        (draft.mechanism.getD "SCRAM-SHA-512").toLower ≠ "external" := by
  simp [isEnabled, hasCredentials, isExternal, effectiveMechanism, defaultMechanism, and_assoc]

theorem exists_build_iff : (∃ authentication, draft.build = .ok authentication) ↔ draft.Identified := by
  unfold build
  by_cases refused : (draft.isEnabled && !draft.hasCredentials && !draft.isExternal) = true
  · rw [if_pos refused]
    exact iff_of_false nofun (fun accepted => accepted (refused_iff.mp refused))
  · rw [if_neg refused]
    exact iff_of_true ⟨_, rfl⟩ (fun fault => refused (refused_iff.mpr fault))

theorem identified_of_build (built : draft.build = .ok authentication) :
    authentication.Identified := by
  have identified := exists_build_iff.mp ⟨authentication, built⟩
  unfold build at built
  by_cases refused : (draft.isEnabled && !draft.hasCredentials && !draft.isExternal) = true
  · rw [if_pos refused] at built
    contradiction
  · rw [if_neg refused] at built
    cases built
    exact identified

end AuthenticationDraft

namespace Draft

theorem exists_buildCaches_iff (built : KeyMap CacheConfiguration)
    (caches : List (String × CacheDraft)) :
    (∃ result, buildCaches built caches = .ok result) ↔ ∀ pair ∈ caches, pair.2.Bounded := by
  induction caches generalizing built with
  | nil => exact iff_of_true ⟨built, rfl⟩ nofun
  | cons pair caches ih =>
    obtain ⟨name, cache⟩ := pair
    rw [List.forall_mem_cons, ← @CacheDraft.exists_build_iff name]
    unfold buildCaches
    constructor
    · rintro ⟨result, done⟩
      obtain ⟨configuration, given, rest⟩ := bind_eq_ok_iff.mp done
      exact ⟨⟨configuration, given⟩, (ih _).mp ⟨result, rest⟩⟩
    · rintro ⟨⟨configuration, given⟩, bounded⟩
      obtain ⟨result, rest⟩ := (ih (built.insert name configuration)).mpr bounded
      exact ⟨result, bind_eq_ok_iff.mpr ⟨configuration, given, rest⟩⟩

theorem mem_of_buildCaches {built result : KeyMap CacheConfiguration}
    {caches : List (String × CacheDraft)} (done : buildCaches built caches = .ok result)
    {name : String} {cache : CacheConfiguration} (there : result[name]? = some cache) :
    (∃ draft, (name, draft) ∈ caches ∧ draft.build name = .ok cache) ∨ built[name]? = some cache := by
  induction caches generalizing built with
  | nil =>
    apply Or.inr
    rwa [Except.ok.inj done]
  | cons pair caches ih =>
    obtain ⟨first, draft⟩ := pair
    unfold buildCaches at done
    obtain ⟨configuration, given, rest⟩ := bind_eq_ok_iff.mp done
    rcases ih rest with ⟨later, listed, made⟩ | stored
    · exact .inl ⟨later, List.mem_cons_of_mem _ listed, made⟩
    · rw [KeyMap.getElem?_insert] at stored
      by_cases same : first = name
      · subst same
        rw [if_pos rfl, Option.some.injEq] at stored
        subst stored
        exact .inl ⟨draft, List.mem_cons_self, given⟩
      · rw [if_neg same] at stored
        exact .inr stored

theorem bounded_of_buildCaches {built result : KeyMap CacheConfiguration}
    {caches : List (String × CacheDraft)} (done : buildCaches built caches = .ok result)
    (bounded : ∀ (name : String) (cache : CacheConfiguration),
      built[name]? = some cache → cache.Bounded) :
    ∀ (name : String) (cache : CacheConfiguration), result[name]? = some cache → cache.Bounded := by
  intro name cache there
  rcases mem_of_buildCaches done there with ⟨draft, -, made⟩ | stored
  · exact CacheDraft.bounded_of_build made
  · exact bounded name cache stored

/-- A draft can be built unless a cache or the authentication is refused. -/
theorem exists_build_iff {draft : Draft} :
    (∃ configuration, draft.build = .ok configuration) ↔
      (∀ (name : String) (cache : CacheDraft), draft.caches[name]? = some cache → cache.Bounded) ∧
        draft.authentication.Identified := by
  have listed : (∀ pair ∈ draft.caches.toList, pair.2.Bounded) ↔
      ∀ (name : String) (cache : CacheDraft), draft.caches[name]? = some cache → cache.Bounded := by
    simp only [Prod.forall, Std.ExtTreeMap.mem_toList_iff_getElem?_eq_some]
  rw [← listed, ← exists_buildCaches_iff ∅, ← AuthenticationDraft.exists_build_iff]
  constructor
  · rintro ⟨configuration, built⟩
    obtain ⟨caches, first, rest⟩ := bind_eq_ok_iff.mp built
    obtain ⟨authentication, second, -⟩ := bind_eq_ok_iff.mp rest
    exact ⟨⟨caches, first⟩, authentication, second⟩
  · rintro ⟨⟨caches, first⟩, authentication, second⟩
    exact ⟨_, bind_eq_ok_iff.mpr ⟨caches, first, bind_eq_ok_iff.mpr ⟨authentication, second, rfl⟩⟩⟩

end Draft

/-- What a configuration must be to connect with it. -/
structure Configuration.Valid (configuration : Configuration) : Prop where
  served : configuration.servers ≠ []
  addressed : ∀ address ∈ configuration.servers, address.WellFormed
  bounded : ∀ (name : String) (cache : CacheConfiguration),
    configuration.caches[name]? = some cache → cache.Bounded
  identified : configuration.authentication.Identified

namespace Draft
variable {draft : Draft} {configuration : Configuration}

theorem servers_of_build (built : draft.build = .ok configuration) :
    configuration.servers = draft.servers := by
  obtain ⟨caches, -, rest⟩ := bind_eq_ok_iff.mp built
  obtain ⟨authentication, -, made⟩ := bind_eq_ok_iff.mp rest
  obtain rfl := Except.ok.inj made
  rfl

theorem properties_of_build (built : draft.build = .ok configuration) :
    configuration.properties = draft.properties := by
  obtain ⟨caches, -, rest⟩ := bind_eq_ok_iff.mp built
  obtain ⟨authentication, -, made⟩ := bind_eq_ok_iff.mp rest
  obtain rfl := Except.ok.inj made
  rfl

theorem exists_cache_of_build (built : draft.build = .ok configuration) {name : String}
    {cache : CacheConfiguration} (there : configuration.caches[name]? = some cache) :
    ∃ before, draft.caches[name]? = some before ∧ before.build name = .ok cache := by
  obtain ⟨caches, first, rest⟩ := bind_eq_ok_iff.mp built
  obtain ⟨authentication, -, made⟩ := bind_eq_ok_iff.mp rest
  obtain rfl := Except.ok.inj made
  rcases mem_of_buildCaches first there with ⟨before, listed, given⟩ | stored
  · exact ⟨before, Std.ExtTreeMap.mem_toList_iff_getElem?_eq_some.mp listed, given⟩
  · rw [Std.ExtTreeMap.getElem?_empty] at stored
    contradiction

/-- A draft with servers is built into a valid configuration, if it is built at all. -/
theorem valid_of_build (built : draft.build = .ok configuration) (served : draft.servers ≠ [])
    (addressed : ∀ address ∈ draft.servers, address.WellFormed) : configuration.Valid := by
  obtain ⟨caches, first, rest⟩ := bind_eq_ok_iff.mp built
  obtain ⟨authentication, second, made⟩ := bind_eq_ok_iff.mp rest
  have bounded := bounded_of_buildCaches first fun name cache stored => by simp at stored
  have identified := AuthenticationDraft.identified_of_build second
  obtain rfl := Except.ok.inj made
  exact ⟨served, addressed, bounded, identified⟩

end Draft

end HotRod
