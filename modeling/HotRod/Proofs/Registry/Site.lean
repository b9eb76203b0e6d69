import HotRod.Proofs.Cluster.Recorded
import HotRod.Proofs.Registry.Rely
import HotRod.Proofs.Registry.Sequential
import HotRod.Registry.Cache
set_option autoImplicit false

/-!
# Sites

Any number of registries share one network. They are asked for managers, caches and counters, and to
shut down; the managers, the handles that were given out and the cluster itself are worked with
directly. One request is served after the other. In every site that comes about the record of created
caches is in order, and no manager is live in a closed registry.
-/

namespace HotRod

open HotRod.Action

inductive Host.Request (files : Files) : {ε α : Type} → Action Host ε α → Prop
  | manager (name : String) : Request files (Host.manager files name)
  | remoteCache (name : String) (cache? : Option String) :
      Request files (Host.remoteCache files name cache?)
  | counters (name : String) : Request files (Host.counters name)
  | shutdown : Request files (Host.shutdown : Action Host ClientError Unit)

/-- What is asked of a network: of managers, of handles whatever they name, and, by those who run it,
of the cluster itself. -/
inductive Network.Request : {ε α : Type} → Action Network ε α → Prop
  | connect (configuration : Configuration) : Request (Network.connect configuration)
  | stop (id : ManagerId) : Request (Network.stop id : Action Network RemoteError Unit)
  | cache (id : ManagerId) (name : String) : Request (Network.cache id name)
  | defaultCache (id : ManagerId) : Request (Network.defaultCache id)
  | getOrCreate (id : ManagerId) (name template : String) :
      Request (Network.getOrCreate id name template)
  | cacheNames (id : ManagerId) : Request (Network.cacheNames id)
  | pushSchemas (id : ManagerId) (files : List (String × String)) :
      Request (Network.pushSchemas id files)
  | get (handle : CacheHandle) (key : String) : Request (handle.get key)
  | put (handle : CacheHandle) (key : String) (value : ByteArray) : Request (handle.put key value)
  | remove (handle : CacheHandle) (key : String) : Request (handle.remove key)
  | contains (handle : CacheHandle) (key : String) : Request (handle.contains key)
  | size (handle : CacheHandle) : Request handle.size
  | clear (handle : CacheHandle) : Request handle.clear
  | defineCounter (handle : CounterHandle) (name : String) (definition : CounterDefinition) :
      Request (handle.run (Counters.define name definition))
  | isDefined (handle : CounterHandle) (name : String) :
      Request (handle.run (Counters.isDefined name))
  | counterDefinition (handle : CounterHandle) (name : String) :
      Request (handle.run (Counters.definition name))
  | add (handle : CounterHandle) (name : String) (delta : Int64) :
      Request (handle.run (Counters.add name delta))
  | value (handle : CounterHandle) (name : String) : Request (handle.run (Counters.value name))
  | reset (handle : CounterHandle) (name : String) : Request (handle.run (Counters.reset name))
  | removeCounter (handle : CounterHandle) (name : String) :
      Request (handle.run (Counters.remove name))
  | counterNames (handle : CounterHandle) : Request (handle.run Counters.names)
  | define (name : String) :
      Request (Network.onCluster (Action.modify (Cluster.define name)))
  | defineDefault (name : String) :
      Request (Network.onCluster (Action.modify (Cluster.defineDefault name)))
  | rejectWrites (name : String) :
      Request (Network.onCluster (Action.modify (Cluster.rejectWrites name)))
  | clusterGet (name key : String) : Request (Network.onCluster (Cluster.get name key))
  | clusterPut (name key : String) (value : ByteArray) :
      Request (Network.onCluster (Cluster.put name key value))
  | clusterRemove (name key : String) : Request (Network.onCluster (Cluster.remove name key))
  | clusterClear (name : String) : Request (Network.onCluster (Cluster.clear name))
  | refuse (refusal : Option String) :
      Request (Action.modify ({ · with refusal }) : Action Network RemoteError Unit)

structure Site where
  network : Network := {}
  registries : List Registry := []

namespace Site

def setNetwork (network : Network) (site : Site) : Site := { site with network }

def host? (site : Site) (place : Nat) : Option Host :=
  site.registries[place]?.map fun registry => ⟨site.network, registry⟩

def putHost (place : Nat) (host : Host) (site : Site) : Site where
  network := host.network
  registries := site.registries.set place host.registry

/-- A registry is opened, a registry is asked, or the network is. -/
inductive Step : Site → Site → Prop
  | opening {site : Site} (settings : ClientsSettings) :
      Step site { site with registries := site.registries ++ [{ settings }] }
  | registry {site : Site} {place : Nat} {host : Host} {files : Files} {ε α : Type}
      {request : Action Host ε α} : site.host? place = some host → Host.Request files request →
      Step site (site.putHost place (request.run host).state)
  | network {site : Site} {ε α : Type} {request : Action Network ε α} : Network.Request request →
      Step site (site.setNetwork (request.run site.network).state)

/-- A site that comes about from a new cluster without registries. -/
def Reachable (site : Site) : Prop := Relation.ReflTransGen Step {} site

end Site

theorem Network.Request.preserves_recorded {ε α : Type} {request : Action Network ε α}
    (asked : Request request) : request.Preserves Recorded := by
  cases asked with
  | connect configuration => exact preserves_recorded_connect configuration
  | stop id => exact preserves_recorded_stop id
  | getOrCreate id name template => exact preserves_recorded_getOrCreate id name template
  | pushSchemas id files => exact preserves_recorded_pushSchemas id files
  | cache | defaultCache | cacheNames | get | contains | size =>
    exact preserves_recorded_through fun _ recorded => recorded
  | put handle key value =>
    exact preserves_recorded_through (Cluster.preserves_recorded_put handle.cache key value)
  | remove handle key =>
    exact preserves_recorded_through (Cluster.preserves_recorded_remove handle.cache key)
  | clear handle =>
    exact preserves_recorded_through (Cluster.preserves_recorded_write handle.cache _)
  | define name | rejectWrites name =>
    exact preserves_recorded_onCluster fun _ recorded => recorded.setStore name _
  | defineDefault name =>
    exact preserves_recorded_onCluster fun _ recorded => recorded.defineDefault name
  | clusterGet => exact preserves_recorded_onCluster fun _ recorded => recorded
  | clusterPut name key value =>
    exact preserves_recorded_onCluster (Cluster.preserves_recorded_put name key value)
  | clusterRemove name key =>
    exact preserves_recorded_onCluster (Cluster.preserves_recorded_remove name key)
  | clusterClear name =>
    exact preserves_recorded_onCluster (Cluster.preserves_recorded_write name _)
  | refuse => exact preserves_modify fun _ recorded => recorded
  | _ => exact preserves_recorded_counters _ _

/-- A closed registry has no live managers. -/
def Registry.Settled (registry : Registry) : Prop := registry.isClosed = true → registry.live = ∅

namespace Host

structure InOrder (host : Host) : Prop where
  recorded : host.network.Recorded
  settled : host.registry.Settled

theorem preserves_inOrder_onNetwork {ε α : Type} {action : Action Network ε α}
    (kept : action.Preserves Network.Recorded) : (onNetwork action).Preserves InOrder :=
  kept.onPart (fun _ order => order.recorded) fun _ _ order recorded => ⟨recorded, order.settled⟩

theorem preserves_inOrder_assemble (files : Files) (client : String) :
    (assemble files client).Preserves InOrder := fun _ order => ⟨order.recorded, order.settled⟩

theorem preserves_inOrder_ensureOpen : ensureOpen.Preserves InOrder := by
  refine preserves_get_bind fun host order => ?_
  split <;> exact order

theorem preserves_inOrder_pushSchemas (client : String) (id : ManagerId)
    (schemaFiles : List (String × String)) :
    (pushSchemas client id schemaFiles).Preserves InOrder := by
  have pushed := preserves_inOrder_onNetwork (Network.preserves_recorded_pushSchemas id schemaFiles)
  refine pushed.attempt.bind fun given => ?_
  cases given with
  | ok _ => exact preserves_pure ()
  | error error =>
    refine (preserves_emit _).bind fun _ => Preserves.bind ?_ fun _ => preserves_fail error
    exact preserves_inOrder_onNetwork (Network.preserves_recorded_stop id)

theorem preserves_inOrder_launch (client : String) (assembly : Assembly) :
    (launch connect client assembly).Preserves InOrder := by
  refine (preserves_ofExcept _).bind fun configuration => ?_
  have connected := preserves_inOrder_onNetwork (Network.preserves_recorded_connect configuration)
  refine (connected.mapError _).bind fun id => (preserves_emit _).bind fun _ => ?_
  refine preserves_get_bind fun host order => ?_
  by_cases registers : host.registry.settings.runtime.registersSchemas = true
  · rw [if_pos registers]
    exact (preserves_inOrder_pushSchemas client id _).bind (fun _ => preserves_pure id) host order
  · rw [if_neg registers]
    exact order

theorem preserves_inOrder_buildManager (files : Files) (client : String) :
    (buildManager connect files client).Preserves InOrder := by
  refine (preserves_emit _).bind fun _ => preserves_get_bind fun host order => ?_
  cases host.registry.settings.usableDefinition? client with
  | none => exact order
  | some definition =>
    refine (preserves_inOrder_assemble files client).bind (fun assembly => ?_) host order
    by_cases empty : assembly.draft.servers.isEmpty = true
    · rw [if_pos empty]
      exact (preserves_emit _).bind fun _ => preserves_pure none
    · rw [if_neg empty]
      exact (preserves_inOrder_launch client assembly).bind fun _ => preserves_pure _

theorem preserves_inOrder_register (client : String) (id : ManagerId) :
    (register client id).Preserves InOrder := by
  refine preserves_get_bind fun host order => ?_
  by_cases closed : host.registry.isClosed = true
  · rw [if_pos closed]
    have stopped := preserves_inOrder_onNetwork (Network.preserves_recorded_stop (ε := ClientError) id)
    exact stopped.bind (fun _ => preserves_fail _) host order
  · rw [if_neg closed]
    exact ⟨order.recorded, fun also => absurd also closed⟩

theorem preserves_inOrder_manager (files : Files) (name : String) :
    (manager files name).Preserves InOrder := by
  refine preserves_inOrder_ensureOpen.bind fun _ => preserves_get_bind fun host order => ?_
  cases host.registry.live[canonicalName name]? with
  | some id => exact order
  | none =>
    refine (preserves_inOrder_buildManager files _).bind (fun id? => ?_) host order
    cases id? with
    | none => exact preserves_pure none
    | some id => exact (preserves_inOrder_register _ id).bind fun _ => preserves_pure _

theorem preserves_inOrder_lookUpCache (id : ManagerId) (cache? : Option String) :
    (onNetwork (lookUpCache id cache?)).Preserves InOrder := by
  refine preserves_inOrder_onNetwork ?_
  cases cache? <;> exact Network.preserves_recorded_through fun _ recorded => recorded

theorem preserves_inOrder_remoteCache (files : Files) (name : String) (cache? : Option String) :
    (remoteCache files name cache?).Preserves InOrder := by
  refine (preserves_inOrder_manager files _).bind fun id? => ?_
  cases id? with
  | none => exact (preserves_emit _).bind fun _ => preserves_fail _
  | some id =>
    refine ((preserves_inOrder_lookUpCache id _).mapError _).bind fun handle? => ?_
    cases handle? with
    | some handle => exact preserves_pure handle
    | none =>
      refine (preserves_emit _).bind fun _ => Preserves.mapError ?_ _
      exact preserves_inOrder_onNetwork (Network.preserves_recorded_getOrCreate id _ _)

theorem preserves_inOrder_counters (name : String) : (counters name).Preserves InOrder := by
  refine preserves_inOrder_ensureOpen.bind fun _ => preserves_get_bind fun host order => ?_
  cases host.registry.live[canonicalName name]? <;> exact order

theorem live_retire (entries : List (String × ManagerId)) (host : Host)
    (listed : ∀ name ∈ host.registry.live, name ∈ entries.map Prod.fst) :
    ((forEach entries fun (client, id) => (retire client id : Action Host ClientError Unit)).run
        host).result = .ok () ∧
      ((forEach entries fun (client, id) => (retire client id : Action Host ClientError Unit)).run
        host).state.registry.live = ∅ := by
  induction entries generalizing host with
  | nil =>
    refine ⟨rfl, Std.ExtTreeMap.ext_getElem? fun name => ?_⟩
    rw [Std.ExtTreeMap.getElem?_empty]
    exact Std.ExtTreeMap.getElem?_eq_none fun member => List.not_mem_nil (listed name member)
  | cons entry entries ih =>
    obtain ⟨client, id⟩ := entry
    obtain ⟨left, done⟩ := Interleaving.ShutdownPhase.run_retire client id host
    have others : ∀ name ∈ ((retire client id : Action Host ClientError Unit).run
        host).state.registry.live, name ∈ entries.map Prod.fst := by
      intro name member
      rw [left] at member
      change name ∈ host.registry.live.erase client at member
      rw [Std.ExtTreeMap.mem_erase] at member
      have listed := listed name member.2
      rw [List.map_cons, List.mem_cons] at listed
      rcases listed with rfl | later
      · simp at member
      · exact later
    have rest := ih _ others
    have ran := @same_bind_of_ok Host ClientError Unit Unit (retire client id)
      (fun _ => forEach entries fun (client, id) => retire client id) host ()
      (done.trans (Network.result_stop _ _))
    exact ⟨ran.2.trans rest.1, ran.1 ▸ rest.2⟩

theorem preserves_recorded_retire (client : String) (id : ManagerId) :
    (retire client id : Action Host ClientError Unit).Preserves (·.network.Recorded) := by
  have erased : (modifyRegistry (Registry.erase client) : Action Host ClientError Unit).Preserves
      (·.network.Recorded) := fun _ recorded => recorded
  have stopped : (onNetwork (Network.stop id) : Action Host ClientError Unit).Preserves
      (·.network.Recorded) :=
    (Network.preserves_recorded_stop id).onPart (fun _ recorded => recorded) fun _ _ _ left => left
  exact erased.bind fun _ => stopped.bind fun _ => preserves_emit _

theorem preserves_recorded_shutdown :
    (shutdown : Action Host ClientError Unit).Preserves (·.network.Recorded) := by
  have begun : (beginShutdown : Action Host ClientError Unit).Preserves (·.network.Recorded) :=
    Keeps.preserves network_beginShutdown Network.Recorded
  refine begun.bind fun _ => preserves_get_bind fun host recorded => ?_
  by_cases closing : host.registry.phase = .closing
  · simp only [if_pos closing]
    have retired : (forEach host.registry.live.toList fun (client, id) =>
        (retire client id : Action Host ClientError Unit)).Preserves (·.network.Recorded) :=
      Preserves.forEach fun entry => preserves_recorded_retire entry.1 entry.2
    have closed : (modifyRegistry (Registry.setPhase .closed) : Action Host ClientError Unit).Preserves
        (·.network.Recorded) := fun _ recorded => recorded
    exact retired.bind (fun _ => closed.bind fun _ => preserves_emit _) host recorded
  · simp only [if_neg closing]
    exact recorded

theorem live_finishShutdown {host : Host} (closing : host.registry.phase = .closing) :
    ((finishShutdown : Action Host ClientError Unit).run host).state.registry.live = ∅ := by
  have listed : ∀ name ∈ host.registry.live, name ∈ host.registry.live.toList.map Prod.fst := by
    intro name member
    rw [Std.ExtTreeMap.map_fst_toList_eq_keys]
    exact Std.ExtTreeMap.mem_keys.mpr member
  obtain ⟨done, none⟩ := live_retire host.registry.live.toList host listed
  rw [Interleaving.ShutdownPhase.state_finishShutdown closing ⟨rfl, done⟩]
  exact none

theorem preserves_inOrder_shutdown :
    (shutdown : Action Host ClientError Unit).Preserves InOrder := by
  intro host order
  refine ⟨preserves_recorded_shutdown host order.recorded, fun _ => ?_⟩
  by_cases opened : host.registry.phase = .opened
  · have begun : (beginShutdown : Action Host ClientError Unit).run host =
        ⟨host.setRegistry (host.registry.setPhase .closing), [], .ok ()⟩ := by
      rw [beginShutdown, run_bind_of_ok (run_get host), if_pos opened]
      rfl
    rw [shutdown, run_bind_of_ok begun]
    exact live_finishShutdown rfl
  · have begun : (beginShutdown : Action Host ClientError Unit).run host = ⟨host, [], .ok ()⟩ := by
      rw [beginShutdown, run_bind_of_ok (run_get host), if_neg opened]
      rfl
    have empty := order.settled (by simpa [Registry.isClosed] using opened)
    rw [shutdown, run_bind_of_ok begun]
    by_cases closing : host.registry.phase = .closing
    · exact live_finishShutdown closing
    · rw [finishShutdown, run_bind_of_ok (run_get host)]
      simp only [if_neg closing]
      exact empty

theorem Request.preserves_inOrder {files : Files} {ε α : Type} {request : Action Host ε α}
    (asked : Request files request) : request.Preserves InOrder := by
  cases asked with
  | manager name => exact preserves_inOrder_manager files name
  | remoteCache name cache? => exact preserves_inOrder_remoteCache files name cache?
  | counters name => exact preserves_inOrder_counters name
  | shutdown => exact preserves_inOrder_shutdown

end Host

namespace Site

structure InOrder (site : Site) : Prop where
  recorded : site.network.Recorded
  settled : ∀ registry ∈ site.registries, registry.Settled

namespace InOrder
variable {site after : Site}

theorem host (order : site.InOrder) {place : Nat} {host : Host} (there : site.host? place = some host) :
    host.InOrder := by
  obtain ⟨registry, found, rfl⟩ := Option.map_eq_some_iff.mp there
  exact ⟨order.recorded, order.settled registry (List.mem_of_getElem? found)⟩

theorem step (order : site.InOrder) (step : Step site after) : after.InOrder := by
  cases step with
  | opening settings =>
    refine ⟨order.recorded, fun registry member => ?_⟩
    rcases List.mem_append.mp member with old | new
    · exact order.settled registry old
    · rw [List.mem_singleton.mp new]
      exact nofun
  | registry there asked =>
    have left := asked.preserves_inOrder _ (order.host there)
    refine ⟨left.recorded, fun registry member => ?_⟩
    rcases List.mem_or_eq_of_mem_set member with other | rfl
    · exact order.settled registry other
    · exact left.settled
  | network asked => exact ⟨asked.preserves_recorded _ order.recorded, order.settled⟩

end InOrder

theorem Reachable.inOrder {site : Site} (reachable : site.Reachable) : site.InOrder := by
  induction reachable with
  | refl => exact ⟨Cluster.recorded_empty, fun _ member => absurd member List.not_mem_nil⟩
  | tail _ step ih => exact ih.step step

end Site

end HotRod
