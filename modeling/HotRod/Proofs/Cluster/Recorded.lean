import HotRod.Network.Schemas
import HotRod.Proofs.Action.Preserves
import HotRod.Proofs.KeyMap
set_option autoImplicit false

/-!
# The record of created caches

Caches are never dropped. So a cache is created once at most, what was created is there, and so are the
cache for schema files and the cache designated as the default.
-/

namespace HotRod

open HotRod.Action

namespace Cluster

structure Recorded (cluster : Cluster) : Prop where
  metadata : cluster.hasCache metadataCache = true
  present : ∀ name ∈ cluster.created.map Prod.fst, cluster.hasCache name = true
  distinct : (cluster.created.map Prod.fst).Nodup
  /-- The cache for schema files is not one that was created. -/
  apart : metadataCache ∉ cluster.created.map Prod.fst
  designated : ∀ name, cluster.designated = some name → cluster.hasCache name = true

theorem hasCache_setStore_iff {cluster : Cluster} {name other : String} {store : CacheStore} :
    (cluster.setStore name store).hasCache other = true ↔
      other = name ∨ cluster.hasCache other = true := by
  rw [hasCache, setStore, ← Std.ExtTreeMap.mem_iff_contains, KeyMap.mem_insert_iff,
    Std.ExtTreeMap.mem_iff_contains]
  rfl

theorem recorded_empty : Recorded {} where
  metadata := by decide +kernel
  present := nofun
  distinct := List.nodup_nil
  apart := List.not_mem_nil
  designated := nofun

namespace Recorded
variable {cluster : Cluster} {name : String}

theorem setStore (recorded : cluster.Recorded) (name : String) (store : CacheStore) :
    (cluster.setStore name store).Recorded where
  metadata := hasCache_setStore_iff.mpr (.inr recorded.metadata)
  present other member := hasCache_setStore_iff.mpr (.inr (recorded.present other member))
  distinct := recorded.distinct
  apart := recorded.apart
  designated other chosen := hasCache_setStore_iff.mpr (.inr (recorded.designated other chosen))

theorem of_same {later : Cluster} (recorded : cluster.Recorded) (caches : later.caches = cluster.caches)
    (created : later.created = cluster.created) (designated : later.designated = cluster.designated) :
    later.Recorded := by
  have same : ∀ name, later.hasCache name = cluster.hasCache name := fun name => by
    rw [hasCache, hasCache, caches]
  constructor
  · exact (same _).trans recorded.metadata
  · intro name member
    rw [same]
    exact recorded.present name (created ▸ member)
  · exact created ▸ recorded.distinct
  · exact created ▸ recorded.apart
  · intro name chosen
    rw [same]
    exact recorded.designated name (designated ▸ chosen)

theorem defineDefault (recorded : cluster.Recorded) (name : String) :
    (cluster.defineDefault name).Recorded := by
  have defined := recorded.setStore name (cluster.store name)
  refine ⟨defined.metadata, defined.present, defined.distinct, defined.apart, fun other chosen => ?_⟩
  obtain rfl : name = other := Option.some.inj chosen
  exact hasCache_setStore_iff.mpr (.inl rfl)

theorem create (recorded : cluster.Recorded) (template : String)
    (missing : ¬ cluster.hasCache name = true) :
    Recorded { cluster.setStore name {} with created := cluster.created ++ [(name, template)] } := by
  have later := recorded.setStore name {}
  have new : name ∉ cluster.created.map Prod.fst := fun member => missing (recorded.present name member)
  have other : metadataCache ≠ name := by
    rintro rfl
    exact missing recorded.metadata
  refine ⟨later.metadata, ?_, ?_, ?_, later.designated⟩
  · intro any member
    rw [List.map_append, List.mem_append] at member
    rcases member with before | last
    · exact later.present any before
    · exact hasCache_setStore_iff.mpr (.inl (List.mem_singleton.mp last))
  · rw [List.map_append, List.nodup_append]
    refine ⟨recorded.distinct, by simp, ?_⟩
    rintro any before _ last rfl
    obtain rfl : any = name := List.mem_singleton.mp last
    exact new before
  · rw [List.map_append, List.mem_append, not_or]
    exact ⟨recorded.apart, fun last => other (List.mem_singleton.mp last)⟩

end Recorded

theorem preserves_recorded_create (name template : String) :
    (create name template).Preserves Recorded := by
  unfold create
  by_cases valid : isTemplate template = true
  · rw [if_pos valid]
    refine preserves_get_bind fun cluster recorded => ?_
    by_cases present : cluster.hasCache name = true
    · rw [if_pos present]
      exact recorded
    · rw [if_neg present]
      exact recorded.create template present
  · rw [if_neg valid]
    exact preserves_fail _

theorem preserves_recorded_write (name : String) (change : KeyMap ByteArray → KeyMap ByteArray) :
    (write name change).Preserves Recorded := by
  refine preserves_get_bind fun cluster recorded => ?_
  by_cases closed : (cluster.store name).readOnly = true
  · rw [if_pos closed]
    exact recorded
  · rw [if_neg closed]
    exact recorded.setStore name _

theorem preserves_recorded_put (name key : String) (value : ByteArray) :
    (put name key value).Preserves Recorded :=
  Preserves.bind (fun _ recorded => recorded) fun _ =>
    (preserves_recorded_write _ _).bind fun _ => preserves_pure _

theorem preserves_recorded_remove (name key : String) : (remove name key).Preserves Recorded :=
  Preserves.bind (fun _ recorded => recorded) fun _ =>
    (preserves_recorded_write _ _).bind fun _ => preserves_pure _

end Cluster

namespace Network

/-- The record of the cluster is in order. -/
def Recorded (network : Network) : Prop := network.cluster.Recorded

theorem preserves_recorded_onCluster {α : Type} {action : Action Cluster RemoteError α}
    (kept : action.Preserves Cluster.Recorded) : (onCluster action).Preserves Recorded :=
  kept.onPart (fun _ recorded => recorded) fun _ _ _ recorded => recorded

theorem preserves_recorded_through {α : Type} {id : ManagerId} {action : Action Cluster RemoteError α}
    (kept : action.Preserves Cluster.Recorded) : (through id action).Preserves Recorded := by
  refine preserves_get_bind fun network recorded => ?_
  by_cases started : network.isStarted id = true
  · rw [if_pos started]
    exact preserves_recorded_onCluster kept network recorded
  · rw [if_neg started]
    exact recorded

theorem preserves_recorded_cache (id : ManagerId) (name : String) :
    (cache id name).Preserves Recorded :=
  preserves_recorded_through fun _ recorded => recorded

theorem preserves_recorded_connect (configuration : Configuration) :
    (connect configuration).Preserves Recorded := by
  have counted : (Action.modify countAttempt : Action Network RemoteError Unit).Preserves Recorded :=
    fun _ recorded => recorded
  refine Preserves.bind (counted.bind fun _ => ?_) fun _ => preserves_get_bind fun network recorded => ?_
  · refine preserves_get_bind fun network recorded => ?_
    cases network.refusal <;> exact recorded
  · by_cases empty : configuration.servers.isEmpty = true
    · rw [if_pos empty]
      exact recorded
    · rw [if_neg empty]
      exact recorded.of_same rfl rfl rfl

theorem preserves_recorded_stop {ε : Type} (id : ManagerId) :
    (stop id : Action Network ε Unit).Preserves Recorded := by
  refine preserves_get_bind fun network recorded => ?_
  split <;> exact recorded

theorem preserves_recorded_pushSchemas (id : ManagerId) (files : List (String × String)) :
    (pushSchemas id files).Preserves Recorded := by
  unfold pushSchemas pushSchemasVia
  split
  · exact preserves_pure 0
  · refine ((preserves_recorded_cache _ _).mapError _).bind fun handle? => ?_
    cases handle? with
    | none => exact preserves_fail _
    | some handle =>
      refine Preserves.bind ?_ fun _ => (preserves_emit _).bind fun _ => preserves_pure _
      refine Preserves.forEach fun file => Preserves.bind ?_ fun _ => preserves_emit _
      exact (preserves_recorded_through (Cluster.preserves_recorded_put _ _ _)).mapError _

theorem preserves_recorded_getOrCreate (id : ManagerId) (name template : String) :
    (getOrCreate id name template).Preserves Recorded :=
  (preserves_recorded_through (Cluster.preserves_recorded_create name template)).bind fun _ =>
    preserves_pure _

theorem preserves_recorded_counters {α : Type} (handle : CounterHandle)
    (action : Action Counters RemoteError α) : (handle.run action).Preserves Recorded :=
  preserves_recorded_onCluster fun _ recorded => recorded.of_same rfl rfl rfl

end Network

end HotRod
