import HotRod.Proofs.Action.Ends
import HotRod.Proofs.Network.Holdings
import HotRod.Proofs.Registry.Deeds
import HotRod.Proofs.Registry.Lookup
import HotRod.Proofs.Registry.Resolution
set_option autoImplicit false

/-!
# What calls leave

A registry that is asked for a manager or a cache adds managers and schema files to the network, and
nothing else is seen of it. A manager that is left started is registered, and what is given is registered.
A shutdown stops the managers that are registered, and no others, and leaves none registered.
-/

namespace HotRod

open HotRod.Action

theorem Network.Arranges.keeps_holdings {ε α : Type} {request : Action Network ε α}
    (arranges : Arranges request) : request.Keeps holdings := by
  cases arranges with
  | cache id name => exact keeps_holdings_cache id name
  | defaultCache id => exact keeps_holdings_defaultCache id
  | getOrCreate id name template => exact keeps_holdings_getOrCreate id name template
  | cacheNames id => exact keeps_holdings_through (fun _ => rfl) id
  | define name | defineDefault name =>
    intro network
    have contents := Cluster.contents_define name network.cluster
    have readOnly := Cluster.isReadOnly_define name network.cluster
    change Holdings.mk (network.cluster.define name).contents (network.cluster.define name).isReadOnly
      network.cluster.counters network.managers = network.holdings
    rw [contents, readOnly]
    rfl
  | refuse refusal =>
    intro network
    rfl

/-- What becomes of the managers that were added: they were stopped again, or the one that was not is
registered. -/
inductive Registry.Takes (registry : Registry) (count : Nat) (added : List Manager) (left : Registry) :
    Prop
  | nothing : left.live = registry.live → (∀ manager ∈ added, manager.started = false) →
      Takes registry count added left
  | client (client : String) (configuration : Configuration) : registry.live[client]? = none →
      added = [⟨configuration, true⟩] → left.live = registry.live.insert client count →
      Takes registry count added left

namespace Registry.Takes
variable {registry left : Registry} {count : Nat} {added : List Manager} {client : String}
  {id : ManagerId}

theorem keeps (takes : registry.Takes count added left) (live : registry.live[client]? = some id) :
    left.live[client]? = some id := by
  cases takes with
  | nothing same _ => rwa [same]
  | client new _ missing _ inserted =>
    have apart : new ≠ client := by
      rintro rfl
      rw [missing] at live
      contradiction
    rwa [inserted, KeyMap.getElem?_insert, if_neg apart]

theorem cases (takes : registry.Takes count added left) (live : left.live[client]? = some id) :
    registry.live[client]? = some id ∨
      id = count ∧ ∃ configuration, added = [⟨configuration, true⟩] := by
  cases takes with
  | nothing same _ => exact .inl (same ▸ live)
  | client new configuration _ only inserted =>
    rw [inserted, KeyMap.getElem?_insert] at live
    by_cases same : new = client
    · rw [if_pos same] at live
      exact .inr ⟨(Option.some.inj live).symm, configuration, only⟩
    · rw [if_neg same] at live
      exact .inl live

/-- Who is left started is registered. -/
theorem registers (takes : registry.Takes count added left) {n : Nat} {manager : Manager}
    (found : added[n]? = some manager) (started : manager.started = true) :
    ∃ client : String, left.live[client]? = some (count + n) := by
  cases takes with
  | nothing _ stopped =>
    rw [stopped manager (List.mem_of_getElem? found)] at started
    contradiction
  | client new configuration _ only inserted =>
    subst only
    have first : n = 0 := Nat.lt_one_iff.mp (List.getElem?_eq_some_iff.mp found).1
    subst first
    refine ⟨new, ?_⟩
    rw [inserted]
    exact Std.ExtTreeMap.getElem?_insert_self

end Registry.Takes

namespace Host
variable {files : Files} {client name : String} {host middle left : Host}
  {given : Except ClientError (Option ManagerId)} {added : List Manager}
  {stored : List (String × String)}

structure Called (host : Host) (given : Except ClientError (Option ManagerId)) (left : Host)
    (added : List Manager) (stored : List (String × String)) : Prop where
  holdings : left.network.holdings = host.network.holdings.grow added stored
  opened : stored ≠ [] → host.network.cluster.isReadOnly metadataCache = false
  isClosed : left.registry.isClosed = host.registry.isClosed
  takes : host.registry.Takes host.network.managers.length added left.registry
  refused : host.registry.isClosed = true → given = .error .registryClosed ∧ added = [] ∧ stored = []
  registered : ∀ id : ManagerId, given = .ok (some id) →
    ∃ client : String, left.registry.live[client]? = some id

theorem called_of_kept (holdings : left.network.holdings = host.network.holdings)
    (live : left.registry.live = host.registry.live)
    (isClosed : left.registry.isClosed = host.registry.isClosed)
    (refused : host.registry.isClosed = true → given = .error .registryClosed)
    (registered : ∀ id : ManagerId, given = .ok (some id) →
      ∃ client : String, host.registry.live[client]? = some id) :
    host.Called given left [] [] where
  holdings := by rw [holdings, Holdings.grow_nil]
  opened := fun some => absurd rfl some
  isClosed := isClosed
  takes := .nothing live fun _ none => absurd none List.not_mem_nil
  refused closed := ⟨refused closed, rfl, rfl⟩
  registered id same := by
    rw [live]
    exact registered id same

theorem Misses.absurd {goal : Prop} (misses : host.Misses client)
    (closed : host.registry.isClosed = true) : goal := by
  rw [misses.opened] at closed
  contradiction

theorem Lookup.called (lookup : host.Lookup files client given left) :
    ∃ added stored, host.Called given left added stored := by
  have holdings : (host.planned files client).network.holdings = host.network.holdings :=
    congrArg Network.holdings network_planned
  cases lookup with
  | closed closed => exact ⟨[], [], called_of_kept rfl rfl rfl (fun _ => rfl) nofun⟩
  | @found id opened live =>
    refine ⟨[], [], called_of_kept rfl rfl rfl ?_ ?_⟩
    · intro closed
      rw [opened] at closed
      contradiction
    · rintro id ⟨⟩
      exact ⟨client, live⟩
  | failed misses _ =>
    exact ⟨[], [], called_of_kept holdings live_planned isClosed_planned misses.absurd nofun⟩
  | skipped misses _ =>
    exact ⟨[], [], called_of_kept holdings live_planned isClosed_planned misses.absurd nofun⟩
  | unconnected misses _ _ =>
    exact ⟨[], [], called_of_kept rfl live_planned isClosed_planned misses.absurd nofun⟩
  | @rejected plan id file fault misses _ _ _ =>
    refine ⟨[⟨plan.configuration, false⟩], [], ?_⟩
    constructor
    · rw [Holdings.grow_no_files]
      have managers := @Network.managers_markStopped_addManager host.network.countAttempt
        plan.configuration
      exact congrArg (Holdings.mk _ _ _) managers
    · exact fun some => absurd rfl some
    · exact isClosed_planned
    · apply Registry.Takes.nothing live_planned
      intro manager member
      rw [List.mem_singleton.mp member]
    · exact misses.absurd
    · exact nofun
  | @launched plan id written misses _ _ taken =>
    let connected := host.network.countAttempt.addManager plan.configuration
    have taken' : connected.cluster.takeSchemas _ = .ok written := taken
    obtain ⟨took, opened⟩ := Network.holdings_of_takeSchemas taken'
    refine ⟨[⟨plan.configuration, true⟩], plan.filesToWrite host.registry.settings, ?_⟩
    constructor
    · rw [← Holdings.grow_managers, ← Network.holdings_addManager]
      exact took
    · exact opened
    · exact isClosed_planned
    · refine .client client plan.configuration misses.missing rfl ?_
      exact congrArg (·.insert client host.network.managers.length) live_planned
    · exact misses.absurd
    · rintro id ⟨⟩
      exact ⟨client, Std.ExtTreeMap.getElem?_insert_self⟩

theorem called_manager (files : Files) (name : String) (host : Host) :
    ∃ added stored, host.Called ((manager files name).run host).result
      ((manager files name).run host).state added stored := by
  obtain ⟨answer, finish, lookup⟩ := exists_lookup files (canonicalName name) host
  obtain ⟨left, given⟩ := lookup.same
  rw [left, given]
  exact lookup.called

/-- What follows a call and leaves the same behind may give what the call gave, or fail. -/
theorem Called.followed {given' : Except ClientError (Option ManagerId)}
    (called : host.Called given middle added stored)
    (holdings : left.network.holdings = middle.network.holdings)
    (registry : left.registry = middle.registry)
    (refused : given = .error .registryClosed → given' = .error .registryClosed)
    (same : ∀ id, given' = .ok (some id) → given = .ok (some id)) :
    host.Called given' left added stored where
  holdings := holdings.trans called.holdings
  opened := called.opened
  isClosed := by rw [registry, called.isClosed]
  takes := by
    rw [registry]
    exact called.takes
  refused closed := ⟨refused (called.refused closed).1, (called.refused closed).2⟩
  registered id given := by
    rw [registry]
    exact called.registered id (same id given)

theorem keeps_holdings_lookUpCache (id : ManagerId) (wanted? : Option String) :
    (lookUpCache id wanted?).Keeps Network.holdings := by
  cases wanted? with
  | some name => exact Network.keeps_holdings_cache id name
  | none => exact Network.keeps_holdings_defaultCache id

theorem manager_of_lookUpCache {id : ManagerId} {wanted? : Option String} {handle : CacheHandle}
    (found : ((lookUpCache id wanted?).run host.network).result = .ok (some handle)) :
    handle.manager = id := by
  cases started : host.network.isStarted id with
  | false =>
    have lost : ((lookUpCache id wanted?).run host.network).result = .error .stopped := by
      cases wanted? with
      | some name =>
        rw [lookUpCache, Network.cache, Network.run_through_of_stopped started]
      | none =>
        rw [lookUpCache, Network.defaultCache, Network.run_through_of_stopped started]
    rw [lost] at found
    contradiction
  | true =>
    rw [run_lookUpCache started] at found
    by_cases there :
        host.network.cluster.hasCache (wanted?.getD host.network.cluster.defaultName) = true
    · simp only [there, if_true, Except.ok.injEq, Option.some.injEq] at found
      rw [← found]
    · simp [there] at found

theorem manager_of_getOrCreate {id : ManagerId} {cache template : String} {network : Network}
    {handle : CacheHandle}
    (made : ((Network.getOrCreate id cache template).run network).result = .ok handle) :
    handle.manager = id := by
  obtain ⟨_, _, -, given⟩ := completes_bind.mp (completes_of_result made)
  rw [← (completes_pure.mp given).1]

def provide (client cache : String) (wanted? : Option String) (id : ManagerId) :
    Action Host ClientError CacheHandle := do
  match ← (onNetwork (lookUpCache id wanted?)).mapError ClientError.remote with
  | some handle => return handle
  | none =>
    emit ⟨.warn, "Cache not found on the server, creating it with the default template",
      [("client", client), ("cache", cache)]⟩
    (onNetwork (Network.getOrCreate id cache defaultTemplate)).mapError ClientError.remote

theorem remoteCache_eq (files : Files) (name : String) (cache? : Option String) :
    remoteCache files name cache? = (do
      let wanted? := cache?.filter (!·.isEmpty)
      let cache := wanted?.getD HotRod.defaultCache
      match ← manager files (canonicalName name) with
      | none =>
        emit ⟨.error, "Unable to produce remote cache: no connection manager",
          [("client", canonicalName name), ("cache", cache)]⟩
        fail (.managerUnavailable (canonicalName name) cache)
      | some id => provide (canonicalName name) cache wanted? id) := rfl

theorem keeps_onNetwork {ε α : Type} {action : Action Network ε α}
    (kept : action.Keeps Network.holdings) :
    (onNetwork action).Keeps fun host => (host.network.holdings, host.registry) := by
  intro host
  exact congrArg (·, host.registry) (kept host.network)

theorem keeps_provide (client cache : String) (wanted? : Option String) (id : ManagerId) :
    (provide client cache wanted? id).Keeps fun host => (host.network.holdings, host.registry) := by
  apply Keeps.bind ((keeps_onNetwork (keeps_holdings_lookUpCache id wanted?)).mapError _)
  intro handle?
  cases handle? with
  | some handle => exact keeps_pure handle
  | none =>
    apply Keeps.bind (keeps_emit _)
    intro _
    have made := Network.keeps_holdings_getOrCreate id cache defaultTemplate
    exact (keeps_onNetwork made).mapError _

theorem manager_of_provide {cache : String} {wanted? : Option String} {id : ManagerId}
    {handle : CacheHandle}
    (given : ((provide client cache wanted? id).run host).result = .ok handle) :
    handle.manager = id := by
  obtain ⟨handle?, middle, looked, rest⟩ := completes_bind.mp (completes_of_result given)
  cases handle? with
  | some found =>
    obtain ⟨rfl, -⟩ := completes_pure.mp rest
    have there : ((lookUpCache id wanted?).run host.network).result = .ok (some found) :=
      mapError_eq_ok_iff.mp looked.1
    exact manager_of_lookUpCache there
  | none =>
    obtain ⟨_, _, -, made⟩ := completes_bind.mp rest
    exact manager_of_getOrCreate (mapError_eq_ok_iff.mp made.1)

/-- What is seen of a call for a cache is what is seen of the call for its manager. -/
theorem called_remoteCache (files : Files) (name : String) (cache? : Option String) (host : Host) :
    ∃ added stored, host.Called
      (((remoteCache files name cache?).run host).result.map fun handle => some handle.manager)
      ((remoteCache files name cache?).run host).state added stored := by
  obtain ⟨added, stored, called⟩ := called_manager files (canonicalName name) host
  refine ⟨added, stored, ?_⟩
  rw [remoteCache_eq]
  rcases done : (manager files (canonicalName name)).run host with ⟨middle, events, error | _ | id⟩
  · rw [done] at called
    rw [run_bind_of_error done]
    exact called.followed rfl rfl (fun same => same) nofun
  · rw [done] at called
    rw [run_bind_of_ok done]
    exact called.followed rfl rfl nofun nofun
  · rw [done] at called
    rw [run_bind_of_ok done]
    let wanted? := cache?.filter (!·.isEmpty)
    have kept := keeps_provide (canonicalName name) (wanted?.getD HotRod.defaultCache) wanted? id middle
    apply called.followed (congrArg Prod.fst kept) (congrArg Prod.snd kept) nofun
    intro other same
    obtain ⟨handle, given, reached⟩ := map_eq_ok_iff.mp same
    rw [manager_of_provide given] at reached
    exact congrArg Except.ok reached

theorem state_counters (name : String) (host : Host) : ((counters name).run host).state = host := by
  have kept : (counters name).Keeps id := by
    have entered : ensureOpen.Keeps id := by
      apply keeps_get.bind
      intro host
      by_cases closed : host.registry.isClosed = true
      · rw [if_pos closed]
        exact keeps_fail _
      · rw [if_neg closed]
        exact keeps_pure ()
    apply entered.bind
    intro _
    apply keeps_get.bind
    intro host
    cases host.registry.live[canonicalName name]? with
    | none => exact keeps_fail _
    | some id => exact keeps_pure _
  exact kept host

/-- What a shutdown leaves: the managers that were registered are stopped, and no others. -/
structure Retired (host left : Host) : Prop where
  cluster : left.network.cluster = host.network.cluster
  length : left.network.managers.length = host.network.managers.length
  isStarted : ∀ id, left.network.isStarted id = true ↔
    host.network.isStarted id = true ∧ ∀ client : String, host.registry.live[client]? ≠ some id
  live : left.registry.live = ∅
  isClosed : left.registry.isClosed = true

theorem network_retire (entries : List (String × ManagerId)) (host : Host) :
    let left := ((forEach entries fun (client, id) =>
      (retire client id : Action Host ClientError Unit)).run host).state
    left.network.cluster = host.network.cluster ∧
      left.network.managers.length = host.network.managers.length ∧
      ∀ id, left.network.isStarted id = true ↔
        host.network.isStarted id = true ∧ id ∉ entries.map Prod.snd := by
  induction entries generalizing host with
  | nil => exact ⟨rfl, rfl, fun id => by simp⟩
  | cons entry entries ih =>
    obtain ⟨client, stopped⟩ := entry
    intro left
    obtain ⟨middle, done⟩ := Interleaving.ShutdownPhase.run_retire client stopped host
    have ran := @same_bind_of_ok Host ClientError Unit Unit (retire client stopped)
      (fun _ => forEach entries fun (client, id) => retire client id) host ()
      (done.trans (Network.result_stop _ _))
    obtain ⟨cluster, length, started⟩ := ih ((retire client stopped).run host).state
    rw [← ran.1] at cluster length started
    have network : ((retire client stopped : Action Host ClientError Unit).run host).state.network =
        ((Network.stop stopped : Action Network ClientError Unit).run host.network).state :=
      congrArg Host.network middle
    rw [network] at cluster length started
    refine ⟨cluster.trans (Network.cluster_stop _ _), length.trans (Network.length_managers_stop _ _), ?_⟩
    intro id
    refine (started id).trans ?_
    rw [Network.isStarted_state_stop, List.map_cons, List.mem_cons, Bool.and_eq_true,
      decide_eq_true_iff, not_or, and_assoc, ne_comm]

theorem retired_finishShutdown (closing : host.registry.phase = .closing) :
    host.Retired ((finishShutdown : Action Host ClientError Unit).run host).state := by
  have listed : ∀ name ∈ host.registry.live, name ∈ host.registry.live.toList.map Prod.fst := by
    intro name member
    rw [Std.ExtTreeMap.map_fst_toList_eq_keys]
    exact Std.ExtTreeMap.mem_keys.mpr member
  obtain ⟨done, none⟩ := live_retire host.registry.live.toList host listed
  obtain ⟨cluster, length, started⟩ := network_retire host.registry.live.toList host
  rw [Interleaving.ShutdownPhase.state_finishShutdown closing ⟨rfl, done⟩]
  refine ⟨cluster, length, fun id => (started id).trans ?_, none, rfl⟩
  rw [KeyMap.mem_map_snd_toList_iff, not_exists]

theorem retired_shutdown (order : host.InOrder) :
    host.Retired ((shutdown : Action Host ClientError Unit).run host).state := by
  cases phase : host.registry.phase with
  | opened =>
    have begun : (beginShutdown : Action Host ClientError Unit).run host =
        ⟨host.setRegistry (host.registry.setPhase .closing), [], .ok ()⟩ := by
      rw [beginShutdown, run_bind_of_ok (run_get host), if_pos phase]
      rfl
    rw [shutdown, run_bind_of_ok begun]
    obtain ⟨cluster, length, started, live, isClosed⟩ :=
      @retired_finishShutdown (host.setRegistry (host.registry.setPhase .closing)) rfl
    exact ⟨cluster, length, started, live, isClosed⟩
  | closing =>
    have begun : (beginShutdown : Action Host ClientError Unit).run host = ⟨host, [], .ok ()⟩ := by
      rw [beginShutdown, run_bind_of_ok (run_get host), phase]
      rfl
    rw [shutdown, run_bind_of_ok begun]
    exact retired_finishShutdown phase
  | closed =>
    have begun : (beginShutdown : Action Host ClientError Unit).run host = ⟨host, [], .ok ()⟩ := by
      rw [beginShutdown, run_bind_of_ok (run_get host), phase]
      rfl
    have isClosed : host.registry.isClosed = true := by
      rw [Registry.isClosed, phase]
      rfl
    have live := order.settled isClosed
    have finished : (finishShutdown : Action Host ClientError Unit).run host = ⟨host, [], .ok ()⟩ := by
      have settled : ¬ host.registry.phase = .closing := by simp [phase]
      rw [finishShutdown, run_bind_of_ok (run_get host)]
      simp only [if_neg settled]
      rfl
    rw [shutdown, run_bind_of_ok begun, finished]
    refine ⟨rfl, rfl, fun id => ?_, live, isClosed⟩
    rw [live]
    simp

end Host

end HotRod
