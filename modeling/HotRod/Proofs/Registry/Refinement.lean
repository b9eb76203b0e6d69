import HotRod.Proofs.Registry.Footprint
import HotRod.Proofs.Registry.SharedMaps
set_option autoImplicit false

/-!
# Sites show shared maps

Whatever the registries and managers of a site, its answers are those of maps that all share. Each deed
is followed on the maps, with the same answer, so that a run is. Once a manager was stopped, nothing is
read or changed through it.
-/

namespace HotRod

open HotRod.Action

/-- The maps are what is in the caches, and who is started reaches them. -/
structure Network.Shows (network : Network) (maps : SharedMaps) : Prop where
  entries : network.cluster.contents = maps.entries
  readOnly : network.cluster.isReadOnly = maps.readOnly
  started : network.managers.map Manager.started = maps.tenures.map Tenure.started

namespace Network.Shows
variable {α : Type} {network left : Network} {maps : SharedMaps}

theorem length (shows : network.Shows maps) : network.managers.length = maps.tenures.length := by
  have same := congrArg List.length shows.started
  rwa [List.length_map, List.length_map] at same

theorem isStarted (shows : network.Shows maps) (id : ManagerId) :
    network.isStarted id = maps.isStarted id := by
  have same := congrArg (·[id]?) shows.started
  simp only [List.getElem?_map] at same
  rw [Network.isStarted, SharedMaps.isStarted]
  cases here : network.managers[id]? with
  | none =>
    rw [here, Option.map_none, eq_comm, Option.map_eq_none_iff] at same
    rw [same]
    rfl
  | some manager =>
    rw [here, Option.map_some, eq_comm, Option.map_eq_some_iff] at same
    obtain ⟨tenure, there, flag⟩ := same
    rw [there]
    exact flag.symm

theorem started_of (length : network.managers.length = maps.tenures.length)
    (started : ∀ id, network.isStarted id = maps.isStarted id) :
    network.managers.map Manager.started = maps.tenures.map Tenure.started := by
  apply List.ext_getElem
  · rw [List.length_map, List.length_map, length]
  · intro id here there
    have same := started id
    rw [List.length_map] at here there
    rw [Network.isStarted, SharedMaps.isStarted, List.getElem?_eq_getElem here,
      List.getElem?_eq_getElem there] at same
    rw [List.getElem_map, List.getElem_map]
    exact same

theorem of_holdings (shows : network.Shows maps) (same : left.holdings = network.holdings) :
    left.Shows maps where
  entries := (congrArg Holdings.contents same).trans shows.entries
  readOnly := (congrArg Holdings.isReadOnly same).trans shows.readOnly
  started := by
    have managers : left.managers = network.managers := congrArg Holdings.managers same
    rw [managers]
    exact shows.started

theorem grow {added : List Manager} {stored : List (String × String)} (owner : Option Nat)
    (shows : network.Shows maps) (grown : left.holdings = network.holdings.grow added stored) :
    left.Shows (maps.grow owner (added.map Manager.started) stored) where
  entries := by
    have contents : left.cluster.contents = _ := congrArg Holdings.contents grown
    rw [contents, SharedMaps.grow, ← shows.entries]
    rfl
  readOnly := (congrArg Holdings.isReadOnly grown).trans shows.readOnly
  started := by
    have managers : left.managers = network.managers ++ added := congrArg Holdings.managers grown
    rw [managers, SharedMaps.grow, List.map_append, List.map_append, shows.started, List.map_map,
      List.map_map]
    rfl

theorem serve (shows : network.Shows maps) (cache : String) (request : CacheRequest α) :
    ((onCluster (request.on cache)).run network).result = (maps.serve cache request).1 ∧
      ((onCluster (request.on cache)).run network).state.Shows (maps.serve cache request).2 := by
  have contents := congrFun shows.entries cache
  have readOnly := congrFun shows.readOnly cache
  cases asks : request.change? with
  | none =>
    rw [onCluster, run_onPart, CacheRequest.run_on_of_reads asks, contents, SharedMaps.serve, asks]
    exact ⟨rfl, shows⟩
  | some change =>
    rw [onCluster, run_onPart, CacheRequest.run_on_of_writes asks, contents, readOnly,
      SharedMaps.serve, asks]
    cases closed : maps.readOnly cache with
    | true => exact ⟨rfl, shows⟩
    | false =>
      refine ⟨rfl, ?_⟩
      constructor
      · change Cluster.contents (Cluster.setStore _ _ _) = _
        rw [Cluster.contents_setStore, shows.entries]
        rfl
      · change Cluster.isReadOnly (Cluster.setStore _ _ _) = _
        rw [Cluster.isReadOnly_setStore]
        exact (Function.update_eq_self cache network.cluster.isReadOnly).trans shows.readOnly
      · exact shows.started

theorem ask (shows : network.Shows maps) (handle : CacheHandle) (request : CacheRequest α) :
    ((request.through handle).run network).result = (maps.ask handle request).1 ∧
      ((request.through handle).run network).state.Shows (maps.ask handle request).2 := by
  have same := shows.isStarted handle.manager
  rw [CacheRequest.through_eq, SharedMaps.ask, ← same]
  cases started : network.isStarted handle.manager with
  | false =>
    rw [run_through_of_stopped started]
    exact ⟨rfl, shows⟩
  | true =>
    rw [run_through started]
    exact shows.serve handle.cache request

theorem close (shows : network.Shows maps) (cache : String) :
    (network.setCluster (network.cluster.rejectWrites cache)).Shows (maps.close cache) where
  entries := by
    have contents := Cluster.contents_setStore cache
      { network.cluster.store cache with readOnly := true } network.cluster
    exact (contents.trans (Function.update_eq_self cache network.cluster.contents)).trans shows.entries
  readOnly := by
    have readOnly := Cluster.isReadOnly_setStore cache
      { network.cluster.store cache with readOnly := true } network.cluster
    rw [shows.readOnly] at readOnly
    exact readOnly
  started := shows.started

theorem stop (shows : network.Shows maps) (id : ManagerId) :
    ((Network.stop id : Action Network RemoteError Unit).run network).state.Shows (maps.stop id) := by
  have cluster := network.cluster_stop (ε := RemoteError) id
  constructor
  · rw [cluster]
    exact shows.entries
  · rw [cluster]
    exact shows.readOnly
  · apply started_of
    · rw [length_managers_stop, shows.length]
      exact (List.length_modify _ _ _).symm
    · intro other
      rw [isStarted_state_stop, shows.isStarted, SharedMaps.isStarted_stop]

end Network.Shows

namespace Site
variable {site after : Site} {maps maps' : SharedMaps} {left : Network} {host hostLeft : Host}
  {place : Nat} {deed : Deed} {deeds : List Deed}

def IsLive (site : Site) (place : Nat) (id : ManagerId) : Prop :=
  ∃ registry : Registry, ∃ client : String,
    site.registries[place]? = some registry ∧ registry.live[client]? = some id

/-- The maps also tell of the registries: which were shut down, and who belongs to them, as far as
started. -/
structure Shows (site : Site) (maps : SharedMaps) : Prop where
  network : site.network.Shows maps
  shut : ∀ place, maps.shut place = site.registries[place]?.elim false Registry.isClosed
  owns : ∀ place id, site.IsLive place id → maps.owner? id = some place
  owned : ∀ place id, maps.owner? id = some place → maps.isStarted id = true → site.IsLive place id

namespace Shows

theorem start : Shows {} {} where
  network := by
    refine ⟨?_, ?_, rfl⟩
    · funext cache
      exact congrArg CacheStore.entries (Cluster.store_new cache)
    · funext cache
      exact congrArg CacheStore.readOnly (Cluster.store_new cache)
  shut _ := rfl
  owns place id live := by
    obtain ⟨registry, client, there, -⟩ := live
    contradiction
  owned place id owned _ := by contradiction

theorem setNetwork (shows : site.Shows maps) (network : left.Shows maps') (shut : maps'.shut = maps.shut)
    (owner : ∀ place id, maps'.owner? id = some place ↔ maps.owner? id = some place)
    (started : ∀ place id, maps.owner? id = some place → maps'.isStarted id = true →
      maps.isStarted id = true) : (site.setNetwork left).Shows maps' where
  network := network
  shut place := by
    rw [shut]
    exact shows.shut place
  owns place id live := (owner place id).mpr (shows.owns place id live)
  owned place id owned isStarted := by
    have before := (owner place id).mp owned
    exact shows.owned place id before (started place id before isStarted)

theorem setNetwork_of_tenures (shows : site.Shows maps) (network : left.Shows maps')
    (shut : maps'.shut = maps.shut) (tenures : maps'.tenures = maps.tenures) :
    (site.setNetwork left).Shows maps' := by
  apply shows.setNetwork network shut
  · intro place id
    rw [SharedMaps.owner?, tenures, SharedMaps.owner?]
  · intro place id _ started
    rwa [SharedMaps.isStarted, tenures] at started

theorem setNetwork_grow (shows : site.Shows maps) {added : List Manager}
    {stored : List (String × String)} (grown : left.holdings = site.network.holdings.grow added stored) :
    (site.setNetwork left).Shows (maps.grow none (added.map Manager.started) stored) := by
  apply shows.setNetwork (shows.network.grow none grown) rfl
  · intro place id
    constructor
    · intro owned
      exact (SharedMaps.owner?_of_grow owned).resolve_right fun new => nomatch new.2
    · exact SharedMaps.owner?_grow_of_owner?
  · intro place id owned started
    rwa [SharedMaps.isStarted,
      SharedMaps.getElem?_grow_of_lt (SharedMaps.lt_length_of_owner? owned)] at started

theorem opening (shows : site.Shows maps) (settings : ClientsSettings) :
    Shows { site with registries := site.registries ++ [{ settings }] } maps where
  network := shows.network
  shut place := by
    rw [shows.shut place]
    rcases Nat.lt_trichotomy place site.registries.length with before | rfl | beyond
    · rw [List.getElem?_append_left before]
    · rw [List.getElem?_eq_none (Nat.le_refl _), List.getElem?_concat_length]
      rfl
    · rw [List.getElem?_eq_none (Nat.le_of_lt beyond), List.getElem?_eq_none]
      rw [List.length_append]
      exact beyond
  owns place id live := by
    obtain ⟨registry, client, there, live⟩ := live
    rcases Nat.lt_or_ge place site.registries.length with before | beyond
    · rw [List.getElem?_append_left before] at there
      exact shows.owns place id ⟨registry, client, there, live⟩
    · rw [List.getElem?_append_right beyond] at there
      obtain rfl := List.mem_singleton.mp (List.mem_of_getElem? there)
      change (∅ : KeyMap ManagerId)[client]? = some id at live
      rw [Std.ExtTreeMap.getElem?_empty] at live
      contradiction
  owned place id owned started := by
    obtain ⟨registry, client, there, live⟩ := shows.owned place id owned started
    have before := (List.getElem?_eq_some_iff.mp there).1
    refine ⟨registry, client, ?_, live⟩
    exact (List.getElem?_append_left before).trans there

theorem putHost (shows : site.Shows maps) (there : site.host? place = some host)
    (network : hostLeft.network.Shows maps')
    (shut : maps'.shut = Function.update maps.shut place hostLeft.registry.isClosed)
    (others : ∀ other id, other ≠ place → (maps'.owner? id = some other ↔ maps.owner? id = some other))
    (started : ∀ other id, other ≠ place → maps.owner? id = some other → maps'.isStarted id = true →
      maps.isStarted id = true)
    (owns : ∀ (id : ManagerId) (client : String), hostLeft.registry.live[client]? = some id →
      maps'.owner? id = some place)
    (owned : ∀ id : ManagerId, maps'.owner? id = some place → maps'.isStarted id = true →
      ∃ client : String, hostLeft.registry.live[client]? = some id) :
    (site.putHost place hostLeft).Shows maps' := by
  obtain ⟨registry, here, rfl⟩ := Option.map_eq_some_iff.mp there
  have within := (List.getElem?_eq_some_iff.mp here).1
  have put : (site.registries.set place hostLeft.registry)[place]? = some hostLeft.registry :=
    List.getElem?_set_self within
  have apart {other : Nat} (different : other ≠ place) :
      (site.registries.set place hostLeft.registry)[other]? = site.registries[other]? :=
    List.getElem?_set_ne different.symm
  refine ⟨network, ?_, ?_, ?_⟩
  · intro other
    rw [shut, Site.putHost]
    by_cases same : other = place
    · rw [same, Function.update_self, put]
      rfl
    · rw [Function.update_of_ne same, apart same]
      exact shows.shut other
  · rintro other id ⟨registry, client, found, live⟩
    rw [Site.putHost] at found
    by_cases same : other = place
    · rw [same, put] at found
      obtain rfl := Option.some.inj found
      rw [same]
      exact owns id client live
    · rw [apart same] at found
      exact (others other id same).mpr (shows.owns other id ⟨registry, client, found, live⟩)
  · intro other id belongs isStarted
    by_cases same : other = place
    · rw [same] at belongs
      obtain ⟨client, live⟩ := owned id belongs isStarted
      rw [same]
      exact ⟨hostLeft.registry, client, put, live⟩
    · have before := (others other id same).mp belongs
      obtain ⟨registry, client, found, live⟩ :=
        shows.owned other id before (started other id same before isStarted)
      exact ⟨registry, client, (apart same).trans found, live⟩

section Call
variable {registry : Registry} {id : ManagerId} {given : Except ClientError (Option ManagerId)}
  {added : List Manager} {stored : List (String × String)}

theorem owner?_of_called (shows : site.Shows maps) (here : site.registries[place]? = some registry)
    (called : Host.Called ⟨site.network, registry⟩ given hostLeft added stored) {client : String}
    (live : hostLeft.registry.live[client]? = some id) :
    (maps.grow (some place) (added.map Manager.started) stored).owner? id = some place := by
  rcases called.takes.cases live with before | ⟨rfl, configuration, rfl⟩
  · exact SharedMaps.owner?_grow_of_owner? (shows.owns place id ⟨registry, client, here, before⟩)
  · have length : site.network.managers.length = maps.tenures.length := shows.network.length
    have new := @SharedMaps.getElem?_grow_length_add maps (some place) [true] stored 0
    change SharedMaps.owner? _ site.network.managers.length = _
    rw [SharedMaps.owner?, length]
    exact congrArg (·.bind Tenure.owner) new

theorem live_of_called (shows : site.Shows maps) (here : site.registries[place]? = some registry)
    (called : Host.Called ⟨site.network, registry⟩ given hostLeft added stored)
    (owned : (maps.grow (some place) (added.map Manager.started) stored).owner? id = some place)
    (started : (maps.grow (some place) (added.map Manager.started) stored).isStarted id = true) :
    ∃ client : String, hostLeft.registry.live[client]? = some id := by
  rcases SharedMaps.owner?_of_grow owned with before | ⟨new, -⟩
  · rw [SharedMaps.isStarted,
      SharedMaps.getElem?_grow_of_lt (SharedMaps.lt_length_of_owner? before)] at started
    obtain ⟨registry', client, found, live⟩ := shows.owned place id before started
    rw [here] at found
    obtain rfl := Option.some.inj found
    exact ⟨client, called.takes.keeps live⟩
  · obtain ⟨n, rfl⟩ := Nat.exists_eq_add_of_le new
    rw [SharedMaps.isStarted, SharedMaps.getElem?_grow_length_add, List.getElem?_map] at started
    have takes : registry.Takes site.network.managers.length added hostLeft.registry := called.takes
    rw [shows.network.length] at takes
    cases found : added[n]? with
    | none =>
      rw [found] at started
      contradiction
    | some manager =>
      rw [found] at started
      exact takes.registers found started

/-- A call leaves who was added with the registry that was called. -/
theorem called (shows : site.Shows maps) (there : site.host? place = some host)
    (called : host.Called given hostLeft added stored) :
    (site.putHost place hostLeft).Shows
      (maps.grow (some place) (added.map Manager.started) stored) := by
  obtain ⟨registry, here, rfl⟩ := Option.map_eq_some_iff.mp there
  apply shows.putHost there (shows.network.grow (some place) called.holdings)
  · rw [called.isClosed]
    have shut : maps.shut place = registry.isClosed := by
      rw [shows.shut, here]
      rfl
    exact (shut ▸ Function.update_eq_self place maps.shut).symm
  · intro other id different
    constructor
    · intro owned
      apply (SharedMaps.owner?_of_grow owned).resolve_right
      rintro ⟨-, same⟩
      exact different (Option.some.inj same).symm
    · exact SharedMaps.owner?_grow_of_owner?
  · intro other id different owned started
    rwa [SharedMaps.isStarted,
      SharedMaps.getElem?_grow_of_lt (SharedMaps.lt_length_of_owner? owned)] at started
  · intro id client live
    exact shows.owner?_of_called here called live
  · intro id owned started
    exact shows.live_of_called here called owned started

end Call

/-- A shutdown stops those who belong to the registry. -/
theorem shutDown (shows : site.Shows maps) (there : site.host? place = some host)
    (retired : host.Retired hostLeft) :
    (site.putHost place hostLeft).Shows (maps.shutDown place) := by
  obtain ⟨registry, here, rfl⟩ := Option.map_eq_some_iff.mp there
  have network : hostLeft.network.Shows (maps.shutDown place) := by
    constructor
    · rw [retired.cluster]
      exact shows.network.entries
    · rw [retired.cluster]
      exact shows.network.readOnly
    · apply Network.Shows.started_of
      · rw [retired.length]
        exact shows.network.length.trans (List.length_map _).symm
      · intro id
        rw [SharedMaps.isStarted_shutDown, Bool.eq_iff_iff, retired.isStarted, Bool.and_eq_true,
          decide_eq_true_iff]
        have same : site.network.isStarted id = maps.isStarted id := shows.network.isStarted id
        change site.network.isStarted id = true ∧ _ ↔ _
        rw [same]
        apply and_congr_right
        intro started
        constructor
        · intro unregistered owned
          obtain ⟨registry', client, found, live⟩ := shows.owned place id owned started
          rw [here] at found
          obtain rfl := Option.some.inj found
          exact unregistered client live
        · intro apart client live
          exact apart (shows.owns place id ⟨registry, client, here, live⟩)
  apply shows.putHost there network
  · rw [retired.isClosed]
    rfl
  · intro other id _
    rw [SharedMaps.owner?_shutDown]
  · intro other id _ _ started
    rw [SharedMaps.isStarted_shutDown, Bool.and_eq_true] at started
    exact started.1
  · intro id client live
    rw [retired.live, Std.ExtTreeMap.getElem?_empty] at live
    contradiction
  · intro id owned started
    rw [SharedMaps.owner?_shutDown] at owned
    rw [SharedMaps.isStarted_shutDown, owned] at started
    simp at started

theorem follow_called (shows : site.Shows maps) (there : site.host? place = some host)
    {given : Except ClientError (Option ManagerId)} {added : List Manager}
    {stored : List (String × String)} (called : host.Called given hostLeft added stored) :
    ∃ maps', SharedMaps.Does maps (.called place given) maps' ∧
      (site.putHost place hostLeft).Shows maps' := by
  have left := shows.called there called
  obtain ⟨registry, here, rfl⟩ := Option.map_eq_some_iff.mp there
  have shut : maps.shut place = registry.isClosed := by
    rw [shows.shut, here]
    rfl
  cases closed : registry.isClosed with
  | true =>
    obtain ⟨rfl, rfl, rfl⟩ := called.refused closed
    rw [List.map_nil, SharedMaps.grow_nil] at left
    exact ⟨maps, .refuse (shut.trans closed), left⟩
  | false =>
    refine ⟨_, .call given _ stored (shut.trans closed) ?_ ?_, left⟩
    · intro some
      rw [← shows.network.readOnly]
      exact called.opened some
    · intro id same
      obtain ⟨client, live⟩ := called.registered id same
      have within := (List.getElem?_eq_some_iff.mp here).1
      exact left.owns place id ⟨hostLeft.registry, client, List.getElem?_set_self within, live⟩

/-- Each deed can be followed on the maps. -/
theorem follow (shows : site.Shows maps) (order : site.InOrder) (does : site.Does deed after) :
    ∃ maps', SharedMaps.Does maps deed maps' ∧ after.Shows maps' := by
  cases does with
  | ask handle request =>
    obtain ⟨answered, left⟩ := shows.network.ask handle request
    refine ⟨(maps.ask handle request).2, ?_, ?_⟩
    · rw [answered]
      exact .ask handle request
    · exact shows.setNetwork_of_tenures left (SharedMaps.shut_ask _ _ _) (SharedMaps.tenures_ask _ _ _)
  | serve cache request =>
    obtain ⟨answered, left⟩ := shows.network.serve cache request
    refine ⟨(maps.serve cache request).2, ?_, ?_⟩
    · rw [answered]
      exact .serve cache request
    · exact shows.setNetwork_of_tenures left (SharedMaps.shut_serve _ _ _)
        (SharedMaps.tenures_serve _ _ _)
  | count handle request =>
    refine ⟨maps, .count handle request _, ?_⟩
    obtain ⟨entries, readOnly, started⟩ := shows.network
    exact shows.setNetwork_of_tenures ⟨entries, readOnly, started⟩ rfl rfl
  | close cache =>
    exact ⟨maps.close cache, .close cache,
      shows.setNetwork_of_tenures (shows.network.close cache) rfl rfl⟩
  | connect configuration =>
    rcases site.network.connect_cases configuration with ⟨error, lost, left⟩ | ⟨given, left⟩
    · refine ⟨maps, ?_, ?_⟩
      · rw [lost]
        exact .miss error
      · rw [left]
        exact shows.setNetwork_of_tenures (shows.network.of_holdings rfl) rfl rfl
    · refine ⟨maps.grow none [true] [], ?_, ?_⟩
      · rw [given, shows.network.length]
        exact .connect
      · rw [left]
        exact shows.setNetwork_grow (site.network.holdings_addManager configuration)
  | @stop id there =>
    refine ⟨maps.stop id, .stop (Nat.lt_of_lt_of_eq there shows.network.length), ?_⟩
    apply shows.setNetwork (shows.network.stop id) rfl
    · intro place other
      rw [SharedMaps.owner?_stop]
    · intro place other _ started
      rw [SharedMaps.isStarted_stop, Bool.and_eq_true] at started
      exact started.1
  | push id files =>
    rcases site.network.pushSchemas_cases id files with ⟨given, grown, opened⟩ | ⟨error, lost, left⟩
    · refine ⟨maps.grow none [] files, ?_, shows.setNetwork_grow grown⟩
      rw [given]
      apply SharedMaps.Does.push
      intro some
      rw [← shows.network.isStarted, ← shows.network.readOnly]
      exact opened some
    · refine ⟨maps, ?_, ?_⟩
      · rw [lost]
        exact .lose id files error
      · rw [left]
        exact shows
  | arrange arranges =>
    have same := arranges.keeps_holdings site.network
    exact ⟨maps, .other, shows.setNetwork_of_tenures (shows.network.of_holdings same) rfl rfl⟩
  | opening settings => exact ⟨maps, .other, shows.opening settings⟩
  | manager files name there =>
    obtain ⟨added, stored, called⟩ := Host.called_manager files name _
    exact shows.follow_called there called
  | remoteCache files name cache? there =>
    obtain ⟨added, stored, called⟩ := Host.called_remoteCache files name cache? _
    exact shows.follow_called there called
  | counters name there =>
    rw [Host.state_counters, putHost_self there]
    exact ⟨maps, .other, shows⟩
  | @shutDown place host there =>
    have retired := Host.retired_shutdown (order.host there)
    exact ⟨maps.shutDown place, .shutDown place, shows.shutDown there retired⟩

end Shows

theorem Run.shows (run : Run deeds site) : ∃ maps, SharedMaps.Run deeds maps ∧ site.Shows maps := by
  apply HotRod.Run.followed Shows.start ?_ run
  intro deeds site deed after maps earlier does shows
  exact shows.follow (Run.reachable earlier).inOrder does

end Site

/-- Nothing is read or changed through a manager: what is asked through it is answered with an error that
says it is stopped, and leaves the network as it is. -/
structure Network.Bars (network : Network) (id : ManagerId) : Prop where
  requests : ∀ {α : Type} (cache : String) (request : CacheRequest α),
    (request.through ⟨id, cache⟩).run network = ⟨network, [], .error .stopped⟩
  cache : ∀ name, (cache id name).run network = ⟨network, [], .error .stopped⟩
  defaultCache : (defaultCache id).run network = ⟨network, [], .error .stopped⟩
  getOrCreate : ∀ name template,
    (getOrCreate id name template).run network = ⟨network, [], .error .stopped⟩
  cacheNames : (cacheNames id).run network = ⟨network, [], .error .stopped⟩
  schemas : ∀ files, (pushSchemas id files).run network =
    ⟨network, [], match files with
      | [] => .ok 0
      | (first, _) :: _ => .error (.schemaPush first .stopped)⟩

theorem Network.bars_of_stopped {network : Network} {id : ManagerId}
    (stopped : network.isStarted id = false) : network.Bars id where
  requests cache request := by
    rw [CacheRequest.through_eq]
    exact run_through_of_stopped stopped _
  cache name := run_through_of_stopped stopped _
  defaultCache := run_through_of_stopped stopped _
  getOrCreate name template := by
    rw [Network.getOrCreate, run_bind_of_error (run_through_of_stopped stopped _)]
  cacheNames := run_through_of_stopped stopped _
  schemas files := run_pushSchemas_of_stopped stopped files

/-- Any number of registries and managers share one map for each cache, and a run gets its answers from
these. A request through a stopped manager is answered so, a write to a closed cache is rejected, and
either changes no map. Once a manager was stopped, or the registry that gave it was shut down, nothing is
read or changed through it. -/
theorem Site.Run.shares_maps {deeds : List Deed} {site : Site} (run : Run deeds site) :
    (∃ maps, SharedMaps.Run deeds maps ∧ site.network.cluster.contents = maps.entries ∧
      site.network.cluster.isReadOnly = maps.readOnly ∧
      ∀ id, site.network.isStarted id = maps.isStarted id) ∧
    ∀ id, WasStopped deeds id → site.network.Bars id := by
  obtain ⟨maps, followed, shows⟩ := run.shows
  refine ⟨⟨maps, followed, shows.network.entries, shows.network.readOnly, shows.network.isStarted⟩, ?_⟩
  intro id stopped
  apply Network.bars_of_stopped
  rw [shows.network.isStarted]
  exact followed.isStarted_of_wasStopped stopped

theorem run_of_two_registries {registry : Registry} {settings : ClientsSettings} {cache key : String}
    {value : ByteArray} {first second : Outcome Host ClientError (Option ManagerId)}
    {written : Outcome Network RemoteError (Option ByteArray)} {down : Outcome Host ClientError Unit}
    {id : ManagerId} (fresh : { settings } = registry)
    (looked : (Host.manager .missing "c").run ⟨{}, registry⟩ = first)
    (also : (Host.manager .missing "c").run ⟨first.state.network, registry⟩ = second)
    (wrote : ((CacheRequest.put key value).through ⟨id, cache⟩).run second.state.network = written)
    (shut : Host.shutdown.run
      ⟨written.state.setCluster (written.state.cluster.rejectWrites cache), first.state.registry⟩ = down) :
    Site.Run [.other, .other, .called 0 first.result, .called 1 second.result,
        .asked ⟨id, cache⟩ (.put key value) written.result, .closed cache, .shutDown 0]
      ⟨down.state.network, [down.state.registry, second.state.registry]⟩ := by
  have opened : Site.Run [.other, .other] ⟨{}, [registry, registry]⟩ := by
    rw [← fresh]
    exact .deed (.deed .start (.opening settings)) (.opening settings)
  have looked : Site.Does ⟨{}, [registry, registry]⟩ (.called 0 first.result)
      ⟨first.state.network, [first.state.registry, registry]⟩ := by
    rw [← looked]
    exact .manager .missing "c" rfl
  have also : Site.Does ⟨first.state.network, [first.state.registry, registry]⟩
      (.called 1 second.result)
      ⟨second.state.network, [first.state.registry, second.state.registry]⟩ := by
    rw [← also]
    exact .manager .missing "c" rfl
  have wrote : Site.Does ⟨second.state.network, [first.state.registry, second.state.registry]⟩
      (.asked ⟨id, cache⟩ (.put key value) written.result)
      ⟨written.state, [first.state.registry, second.state.registry]⟩ := by
    rw [← wrote]
    exact .ask _ _
  have shut : Site.Does
      ⟨written.state.setCluster (written.state.cluster.rejectWrites cache),
        [first.state.registry, second.state.registry]⟩ (.shutDown 0)
      ⟨down.state.network, [down.state.registry, second.state.registry]⟩ := by
    rw [← shut]
    exact .shutDown rfl
  exact .deed (.deed (.deed (.deed (.deed opened looked) also) wrote) (.close cache)) shut

/-- What the manager of one registry wrote, that of another reads, also after the first registry was shut
down; through the first one nothing is reached, not even a rejection. -/
theorem shut_registry_is_barred :
    ∃ (deeds : List Deed) (site : Site), Site.Run deeds site ∧ WasStopped deeds 0 ∧
      site.network.Bars 0 ∧
      (((CacheRequest.get "k").through ⟨1, "books"⟩).run site.network).result =
        .ok (some "v".toUTF8) ∧
      (((CacheRequest.put "k" "w".toUTF8).through ⟨1, "books"⟩).run site.network).result =
        .error (.rejected "books" "cache is read-only") ∧
      (((CacheRequest.put "k" "w".toUTF8).through ⟨0, "books"⟩).run site.network).result =
        .error .stopped := by
  let registry : Registry := { settings := Interleaving.servedSettings }
  let first := (Host.manager .missing "c").run ⟨{}, registry⟩
  let second := (Host.manager .missing "c").run ⟨first.state.network, registry⟩
  let written := ((CacheRequest.put "k" "v".toUTF8).through ⟨0, "books"⟩).run second.state.network
  let closed := written.state.setCluster (written.state.cluster.rejectWrites "books")
  let down := (Host.shutdown : Action Host ClientError Unit).run ⟨closed, first.state.registry⟩
  have facts : first.result.toOption = some (some 0) ∧ down.state.network.isStarted 1 = true ∧
      down.state.network.cluster.isReadOnly "books" = true ∧
      (down.state.network.cluster.contents "books")["k"]? = some "v".toUTF8 := by
    decide +kernel
  have run := @run_of_two_registries registry Interleaving.servedSettings "books" "k" "v".toUTF8
    first second written down 0 rfl rfl rfl rfl rfl
  clear_value down written second first
  obtain ⟨given, started, readOnly, contents⟩ := facts
  rw [eq_ok_of_toOption given] at run
  have stopped : WasStopped [.other, .other, .called 0 (.ok (some 0)), .called 1 second.result,
      .asked ⟨0, "books"⟩ (.put "k" "v".toUTF8) written.result, .closed "books", .shutDown 0] 0 :=
    .inr ⟨0, by simp, by simp⟩
  have bars := run.shares_maps.2 0 stopped
  refine ⟨_, _, run, stopped, bars, ?_, ?_, ?_⟩
  · rw [CacheRequest.through_eq, Network.run_through started, CacheRequest.run_on_of_reads rfl]
    exact congrArg Except.ok contents
  · rw [CacheRequest.through_eq, Network.run_through started, CacheRequest.run_on_of_writes rfl, readOnly]
    rfl
  · rw [bars.requests]

end HotRod
