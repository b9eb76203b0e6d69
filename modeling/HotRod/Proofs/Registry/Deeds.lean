import HotRod.Proofs.Client.Assembly
import HotRod.Proofs.Cluster.Contents
import HotRod.Proofs.Cluster.Counters
import HotRod.Proofs.Registry.Site
set_option autoImplicit false

/-!
# Deeds

A site is worked with in one deed after the other, and each is told with what was answered. A run is the
list of its deeds. The sites that come about are those at the end of a run.
-/

namespace HotRod

inductive Run {σ : Type} {δ : Type 1} (Does : σ → δ → σ → Prop) (start : σ) : List δ → σ → Prop
  | start : Run Does start [] start
  | deed {deeds : List δ} {deed : δ} {state after : σ} : Run Does start deeds state →
      Does state deed after → Run Does start (deeds ++ [deed]) after

namespace Run
variable {σ τ : Type} {δ : Type 1} {Does : σ → δ → σ → Prop} {Does' : τ → δ → τ → Prop} {start state : σ}
  {start' : τ} {deeds : List δ}

/-- Where each deed can be followed, so can a run. -/
theorem followed {Shows : σ → τ → Prop} (begins : Shows start start')
    (follows : ∀ deeds state deed after state', Run Does start deeds state → Does state deed after →
      Shows state state' → ∃ after', Does' state' deed after' ∧ Shows after after')
    (run : Run Does start deeds state) : ∃ state', Run Does' start' deeds state' ∧ Shows state state' := by
  induction run with
  | start => exact ⟨start', .start, begins⟩
  | deed earlier does ih =>
    obtain ⟨state', run', shows'⟩ := ih
    obtain ⟨after', does', shows'⟩ := follows _ _ _ _ _ earlier does shows'
    exact ⟨after', .deed run' does', shows'⟩

end Run

/-- What was done with a site, and what was answered. Registries are told apart by their places. -/
inductive Deed : Type 1
  /-- A cache was asked through a handle. -/
  | asked {α : Type} (handle : CacheHandle) (request : CacheRequest α) (answer : Except RemoteError α)
  /-- A cache was asked on the cluster itself. -/
  | served {α : Type} (cache : String) (request : CacheRequest α) (answer : Except RemoteError α)
  | counted {α : Type} (handle : CounterHandle) (request : CounterRequest α)
      (answer : Except RemoteError α)
  /-- A cache was closed to writers. -/
  | closed (cache : String)
  | connected (given : Except RemoteError ManagerId)
  | stopped (id : ManagerId)
  /-- Schema files were written through a manager. -/
  | pushed (id : ManagerId) (files : List (String × String)) (given : Except ClientError Nat)
  /-- A registry was asked for a manager, or for a cache of the manager that is told. -/
  | called (place : Nat) (given : Except ClientError (Option ManagerId))
  | shutDown (place : Nat)
  | other

/-- A manager was stopped, by itself or with the registry that had given it. -/
def WasStopped (deeds : List Deed) (id : ManagerId) : Prop :=
  .stopped id ∈ deeds ∨
    ∃ place, .shutDown place ∈ deeds ∧ .called place (.ok (some id)) ∈ deeds

/-- What is asked of a network that does not touch what is in caches and counters. -/
inductive Network.Arranges : {ε α : Type} → Action Network ε α → Prop
  | cache (id : ManagerId) (name : String) : Arranges (Network.cache id name)
  | defaultCache (id : ManagerId) : Arranges (Network.defaultCache id)
  | getOrCreate (id : ManagerId) (name template : String) :
      Arranges (Network.getOrCreate id name template)
  | cacheNames (id : ManagerId) : Arranges (Network.cacheNames id)
  | define (name : String) :
      Arranges (Network.onCluster (Action.modify (Cluster.define name)))
  | defineDefault (name : String) :
      Arranges (Network.onCluster (Action.modify (Cluster.defineDefault name)))
  | refuse (refusal : Option String) :
      Arranges (Action.modify ({ · with refusal }) : Action Network RemoteError Unit)

namespace Site

/-- The deeds that can be done, and what they leave. -/
inductive Does : Site → Deed → Site → Prop
  | ask {site : Site} {α : Type} (handle : CacheHandle) (request : CacheRequest α) :
      Does site (.asked handle request ((request.through handle).run site.network).result)
        (site.setNetwork ((request.through handle).run site.network).state)
  | serve {site : Site} {α : Type} (cache : String) (request : CacheRequest α) :
      Does site
        (.served cache request ((Network.onCluster (request.on cache)).run site.network).result)
        (site.setNetwork ((Network.onCluster (request.on cache)).run site.network).state)
  | count {site : Site} {α : Type} (handle : CounterHandle) (request : CounterRequest α) :
      Does site (.counted handle request ((handle.run request.action).run site.network).result)
        (site.setNetwork ((handle.run request.action).run site.network).state)
  | close {site : Site} (cache : String) :
      Does site (.closed cache)
        (site.setNetwork (site.network.setCluster (site.network.cluster.rejectWrites cache)))
  | connect {site : Site} (configuration : Configuration) :
      Does site (.connected ((Network.connect configuration).run site.network).result)
        (site.setNetwork ((Network.connect configuration).run site.network).state)
  | stop {site : Site} {id : ManagerId} : id < site.network.managers.length →
      Does site (.stopped id)
        (site.setNetwork ((Network.stop id : Action Network RemoteError Unit).run site.network).state)
  | push {site : Site} (id : ManagerId) (files : List (String × String)) :
      Does site (.pushed id files ((Network.pushSchemas id files).run site.network).result)
        (site.setNetwork ((Network.pushSchemas id files).run site.network).state)
  | arrange {site : Site} {ε α : Type} {request : Action Network ε α} : Network.Arranges request →
      Does site .other (site.setNetwork (request.run site.network).state)
  | opening {site : Site} (settings : ClientsSettings) :
      Does site .other { site with registries := site.registries ++ [{ settings }] }
  | manager {site : Site} {place : Nat} {host : Host} (files : Files) (name : String) :
      site.host? place = some host →
      Does site (.called place ((Host.manager files name).run host).result)
        (site.putHost place ((Host.manager files name).run host).state)
  | remoteCache {site : Site} {place : Nat} {host : Host} (files : Files) (name : String)
      (cache? : Option String) : site.host? place = some host →
      Does site
        (.called place (((Host.remoteCache files name cache?).run host).result.map
          fun handle => some handle.manager))
        (site.putHost place ((Host.remoteCache files name cache?).run host).state)
  | counters {site : Site} {place : Nat} {host : Host} (name : String) :
      site.host? place = some host →
      Does site .other (site.putHost place ((Host.counters name).run host).state)
  | shutDown {site : Site} {place : Nat} {host : Host} : site.host? place = some host →
      Does site (.shutDown place)
        (site.putHost place ((Host.shutdown : Action Host ClientError Unit).run host).state)

abbrev Run (deeds : List Deed) (site : Site) : Prop := HotRod.Run Does {} deeds site

variable {site after : Site} {deed : Deed} {deeds : List Deed}

theorem putHost_self {place : Nat} {host : Host} (there : site.host? place = some host) :
    site.putHost place host = site := by
  obtain ⟨registry, here, rfl⟩ := Option.map_eq_some_iff.mp there
  obtain ⟨within, here⟩ := List.getElem?_eq_some_iff.mp here
  rw [putHost, ← here, List.set_getElem_self]

theorem Does.steps (does : Does site deed after) : Relation.ReflTransGen Step site after := by
  cases does with
  | ask handle request =>
    apply Relation.ReflTransGen.single
    cases request with
    | get key => exact .network (.get handle key)
    | put key value => exact .network (.put handle key value)
    | remove key => exact .network (.remove handle key)
    | contains key => exact .network (.contains handle key)
    | size => exact .network (.size handle)
    | clear => exact .network (.clear handle)
  | serve cache request =>
    cases request with
    | get key => exact .single (.network (.clusterGet cache key))
    | put key value => exact .single (.network (.clusterPut cache key value))
    | remove key => exact .single (.network (.clusterRemove cache key))
    | clear => exact .single (.network (.clusterClear cache))
    | contains key => exact .refl
    | size => exact .refl
  | count handle request =>
    apply Relation.ReflTransGen.single
    cases request with
    | define name meaning => exact .network (.defineCounter handle name meaning)
    | isDefined name => exact .network (.isDefined handle name)
    | definition name => exact .network (.counterDefinition handle name)
    | add name delta => exact .network (.add handle name delta)
    | value name => exact .network (.value handle name)
    | reset name => exact .network (.reset handle name)
    | remove name => exact .network (.removeCounter handle name)
    | names => exact .network (.counterNames handle)
  | close cache => exact .single (.network (.rejectWrites cache))
  | connect configuration => exact .single (.network (.connect configuration))
  | @stop id there => exact .single (.network (.stop id))
  | push id files => exact .single (.network (.pushSchemas id files))
  | arrange arranges =>
    apply Relation.ReflTransGen.single
    cases arranges with
    | cache id name => exact .network (.cache id name)
    | defaultCache id => exact .network (.defaultCache id)
    | getOrCreate id name template => exact .network (.getOrCreate id name template)
    | cacheNames id => exact .network (.cacheNames id)
    | define name => exact .network (.define name)
    | defineDefault name => exact .network (.defineDefault name)
    | refuse refusal => exact .network (.refuse refusal)
  | opening settings => exact .single (.opening settings)
  | manager files name there => exact .single (.registry there (.manager name))
  | remoteCache files name cache? there => exact .single (.registry there (.remoteCache name cache?))
  | @counters place host name there =>
    have asked : Host.Request .missing (Host.counters name) := .counters name
    exact .single (.registry there asked)
  | shutDown there =>
    have asked : Host.Request .missing (Host.shutdown : Action Host ClientError Unit) := .shutdown
    exact .single (.registry there asked)

/-- Every step is a deed. -/
theorem Step.does (step : Step site after) : ∃ deed, Does site deed after := by
  cases step with
  | opening settings => exact ⟨_, .opening settings⟩
  | registry there asked =>
    cases asked with
    | manager name => exact ⟨_, .manager _ name there⟩
    | remoteCache name cache? => exact ⟨_, .remoteCache _ name cache? there⟩
    | counters name => exact ⟨_, .counters name there⟩
    | shutdown => exact ⟨_, .shutDown there⟩
  | network asked =>
    cases asked with
    | connect configuration => exact ⟨_, .connect configuration⟩
    | stop id =>
      by_cases there : id < site.network.managers.length
      · exact ⟨_, .stop there⟩
      · have same : ((Network.stop id : Action Network RemoteError Unit).run site.network).state =
            site.network := by
          unfold Network.stop
          rw [Action.run_bind_of_ok (Action.run_get site.network),
            List.getElem?_eq_none (Nat.le_of_not_lt there)]
          rfl
        rw [same]
        exact ⟨_, .serve metadataCache .size⟩
    | cache id name => exact ⟨_, .arrange (.cache id name)⟩
    | defaultCache id => exact ⟨_, .arrange (.defaultCache id)⟩
    | getOrCreate id name template => exact ⟨_, .arrange (.getOrCreate id name template)⟩
    | cacheNames id => exact ⟨_, .arrange (.cacheNames id)⟩
    | pushSchemas id files => exact ⟨_, .push id files⟩
    | get handle key => exact ⟨_, .ask handle (.get key)⟩
    | put handle key value => exact ⟨_, .ask handle (.put key value)⟩
    | remove handle key => exact ⟨_, .ask handle (.remove key)⟩
    | contains handle key => exact ⟨_, .ask handle (.contains key)⟩
    | size handle => exact ⟨_, .ask handle .size⟩
    | clear handle => exact ⟨_, .ask handle .clear⟩
    | defineCounter handle name meaning => exact ⟨_, .count handle (.define name meaning)⟩
    | isDefined handle name => exact ⟨_, .count handle (.isDefined name)⟩
    | counterDefinition handle name => exact ⟨_, .count handle (.definition name)⟩
    | add handle name delta => exact ⟨_, .count handle (.add name delta)⟩
    | value handle name => exact ⟨_, .count handle (.value name)⟩
    | reset handle name => exact ⟨_, .count handle (.reset name)⟩
    | removeCounter handle name => exact ⟨_, .count handle (.remove name)⟩
    | counterNames handle => exact ⟨_, .count handle .names⟩
    | define name => exact ⟨_, .arrange (.define name)⟩
    | defineDefault name => exact ⟨_, .arrange (.defineDefault name)⟩
    | rejectWrites name => exact ⟨_, .close name⟩
    | clusterGet name key => exact ⟨_, .serve name (.get key)⟩
    | clusterPut name key value => exact ⟨_, .serve name (.put key value)⟩
    | clusterRemove name key => exact ⟨_, .serve name (.remove key)⟩
    | clusterClear name => exact ⟨_, .serve name .clear⟩
    | refuse refusal => exact ⟨_, .arrange (.refuse refusal)⟩

theorem Run.reachable (run : Run deeds site) : site.Reachable := by
  induction run with
  | start => exact .refl
  | deed _ does ih => exact ih.trans does.steps

/-- What comes about does so by deeds. -/
theorem reachable_iff : site.Reachable ↔ ∃ deeds, Run deeds site := by
  constructor
  · intro reachable
    induction reachable with
    | refl => exact ⟨[], .start⟩
    | tail _ step ih =>
      obtain ⟨deeds, run⟩ := ih
      obtain ⟨deed, does⟩ := step.does
      exact ⟨deeds ++ [deed], .deed run does⟩
  · rintro ⟨deeds, run⟩
    exact run.reachable

end Site

end HotRod
