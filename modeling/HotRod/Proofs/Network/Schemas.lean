import HotRod.Network.Schemas
import HotRod.Proofs.Action
import HotRod.Proofs.Action.Alike
import HotRod.Proofs.KeyMap
set_option autoImplicit false

/-!
# All or nothing

Schema files are written one by one, but only the first can be refused: whether their cache is there
and open to writers does not change between them. So a started manager writes all of its files or none.
-/

namespace HotRod

open HotRod.Action

namespace Cluster

def schemaFault? (cluster : Cluster) : Option RemoteError :=
  if cluster.hasCache metadataCache = false then
    some (.rejected metadataCache "metadata cache is not available")
  else if (cluster.store metadataCache).readOnly then
    some (.rejected metadataCache "cache is read-only")
  else none

def storeSchemas (files : List (String × String)) (cluster : Cluster) : Cluster :=
  let store := cluster.store metadataCache
  cluster.setStore metadataCache { store with
    entries := store.entries.extend (files.map fun (name, contents) => (name, contents.toUTF8)) }

theorem schemaFault?_eq_none_iff {cluster : Cluster} :
    cluster.schemaFault? = none ↔
      cluster.hasCache metadataCache = true ∧ (cluster.store metadataCache).readOnly = false := by
  unfold schemaFault?
  cases cluster.hasCache metadataCache <;> cases (cluster.store metadataCache).readOnly <;> simp

@[simp] theorem store_setStore (name : String) (store : CacheStore) (cluster : Cluster) :
    (cluster.setStore name store).store name = store := by
  simp [Cluster.store, setStore]

@[simp] theorem hasCache_setStore (name : String) (store : CacheStore) (cluster : Cluster) :
    (cluster.setStore name store).hasCache name = true := by
  simp [hasCache, setStore]

@[simp] theorem setStore_setStore (name : String) (store later : CacheStore) (cluster : Cluster) :
    (cluster.setStore name store).setStore name later = cluster.setStore name later := by
  simp [setStore, KeyMap.insert_insert]

theorem setStore_store {name : String} {cluster : Cluster} (present : cluster.hasCache name = true) :
    cluster.setStore name (cluster.store name) = cluster := by
  rw [setStore, Cluster.store, KeyMap.insert_getD present]

theorem storeSchemas_nil {cluster : Cluster} (opened : cluster.schemaFault? = none) :
    cluster.storeSchemas [] = cluster :=
  setStore_store (schemaFault?_eq_none_iff.mp opened).1

theorem storeSchemas_append (files more : List (String × String)) (cluster : Cluster) :
    (cluster.storeSchemas files).storeSchemas more = cluster.storeSchemas (files ++ more) := by
  simp [storeSchemas, KeyMap.extend, List.foldl_append]

/-- What writing schema files comes to: a cluster with all of them, or why the first is refused. -/
def takeSchemas (files : List (String × String)) (cluster : Cluster) :
    Except (String × RemoteError) Cluster :=
  match files with
  | [] => .ok cluster
  | (first, _) :: _ =>
    match cluster.schemaFault? with
    | some fault => .error (first, fault)
    | none => .ok (cluster.storeSchemas files)

theorem takeSchemas_cons_eq_ok_iff {file : String × String} {rest : List (String × String)}
    {cluster written : Cluster} :
    cluster.takeSchemas (file :: rest) = .ok written ↔
      cluster.schemaFault? = none ∧ cluster.storeSchemas (file :: rest) = written := by
  unfold takeSchemas
  cases cluster.schemaFault? <;> simp

theorem takeSchemas_eq_error_iff {files : List (String × String)} {cluster : Cluster} {file : String}
    {fault : RemoteError} :
    cluster.takeSchemas files = .error (file, fault) ↔
      ∃ contents rest, files = (file, contents) :: rest ∧ cluster.schemaFault? = some fault := by
  unfold takeSchemas
  rcases files with _ | ⟨⟨first, contents⟩, rest⟩
  · simp
  · cases cluster.schemaFault? <;> simp

theorem connections_of_takeSchemas {files : List (String × String)} {cluster written : Cluster}
    (taken : cluster.takeSchemas files = .ok written) : written.connections = cluster.connections := by
  cases files with
  | nil =>
    cases taken
    rfl
  | cons file rest =>
    obtain ⟨-, rfl⟩ := takeSchemas_cons_eq_ok_iff.mp taken
    rfl

theorem schemaFault?_storeSchemas {files : List (String × String)} {cluster : Cluster}
    (opened : cluster.schemaFault? = none) : (cluster.storeSchemas files).schemaFault? = none := by
  refine schemaFault?_eq_none_iff.mpr ⟨?_, ?_⟩
  · exact hasCache_setStore _ _ _
  · rw [storeSchemas, store_setStore]
    exact (schemaFault?_eq_none_iff.mp opened).2

theorem run_put {name key : String} {value : ByteArray} {cluster : Cluster}
    (opened : (cluster.store name).readOnly = false) :
    (put name key value).run cluster =
      ⟨cluster.setStore name { cluster.store name with
        entries := (cluster.store name).entries.insert key value }, [],
        .ok (cluster.store name).entries[key]?⟩ := by
  have read : (get name key).run cluster = ⟨cluster, [], .ok (cluster.store name).entries[key]?⟩ := rfl
  unfold put write
  rw [run_bind_of_ok read, bind_assoc, run_bind_of_ok (run_get cluster)]
  simp only [opened, Bool.false_eq_true, if_false]
  rfl

theorem run_put_of_readOnly {name key : String} {value : ByteArray} {cluster : Cluster}
    (closed : (cluster.store name).readOnly = true) :
    (put name key value).run cluster =
      ⟨cluster, [], .error (.rejected name "cache is read-only")⟩ := by
  have read : (get name key).run cluster = ⟨cluster, [], .ok (cluster.store name).entries[key]?⟩ := rfl
  unfold put write
  rw [run_bind_of_ok read, bind_assoc, run_bind_of_ok (run_get cluster)]
  simp only [closed, if_true]
  rfl

end Cluster

namespace Network

/-- Through a started manager the work is done on the cluster. -/
theorem run_through {α : Type} {id : ManagerId} {network : Network}
    (started : network.isStarted id = true) (action : Action Cluster RemoteError α) :
    (through id action).run network =
      ⟨network.setCluster (action.run network.cluster).state, (action.run network.cluster).events,
        (action.run network.cluster).result⟩ := by
  rw [through, run_bind_of_ok (run_get network), if_pos started]
  rfl

variable {id : ManagerId} {network : Network}

theorem run_cache (started : network.isStarted id = true) (name : String) :
    (cache id name).run network =
      ⟨network, [], .ok (if network.cluster.hasCache name then some ⟨id, name⟩ else none)⟩ := by
  rw [cache, run_through started]
  rfl

theorem completes_writeSchemas {files : List (String × String)} (started : network.isStarted id = true)
    (opened : network.cluster.schemaFault? = none) :
    (writeSchemas ⟨id, metadataCache⟩ files).Completes network ()
      (network.setCluster (network.cluster.storeSchemas files)) := by
  unfold writeSchemas
  induction files generalizing network with
  | nil =>
    rw [completes_forEach_nil, Cluster.storeSchemas_nil opened]
    rfl
  | cons file files ih =>
    let written := network.setCluster (network.cluster.storeSchemas [file])
    have still : written.cluster.schemaFault? = none := Cluster.schemaFault?_storeSchemas opened
    have rest := @ih written started still
    rw [show written.cluster = network.cluster.storeSchemas [file] from rfl,
      Cluster.storeSchemas_append] at rest
    have put : ((CacheHandle.put ⟨id, metadataCache⟩ file.1 file.2.toUTF8).mapError
        (ClientError.schemaPush file.1)).run network =
          ⟨written, [], .ok (network.cluster.store metadataCache).entries[file.1]?⟩ := by
      rw [run_mapError, CacheHandle.put, run_through started,
        Cluster.run_put (Cluster.schemaFault?_eq_none_iff.mp opened).2]
      rfl
    refine completes_forEach_cons.mpr ⟨written, ?_, rest⟩
    exact completes_bind.mpr ⟨_, written, completes_of_run put, completes_emit.mpr rfl⟩

theorem same_pushSchemas {files : List (String × String)} {written : Cluster}
    (started : network.isStarted id = true) (taken : network.cluster.takeSchemas files = .ok written) :
    ((pushSchemas id files).run network).Same
      ⟨network.setCluster written, [], .ok files.length⟩ := by
  cases files with
  | nil =>
    cases taken
    exact ⟨rfl, rfl⟩
  | cons file rest =>
    obtain ⟨opened, rfl⟩ := Cluster.takeSchemas_cons_eq_ok_iff.mp taken
    have found : ((cache id metadataCache).mapError (ClientError.schemaPush file.1)).run network =
        ⟨network, [], .ok (some ⟨id, metadataCache⟩)⟩ := by
      rw [run_mapError, run_cache started, if_pos (Cluster.schemaFault?_eq_none_iff.mp opened).1]
      rfl
    obtain ⟨succeeded, left⟩ := @completes_writeSchemas id network (file :: rest) started opened
    unfold pushSchemas pushSchemasVia
    rw [run_bind_of_ok found]
    refine (same_bind_of_ok succeeded).trans ?_
    rw [left]
    exact ⟨rfl, rfl⟩

theorem same_pushSchemas_of_fault {files : List (String × String)} {file : String}
    {fault : RemoteError} (started : network.isStarted id = true)
    (refused : network.cluster.takeSchemas files = .error (file, fault)) :
    ((pushSchemas id files).run network).Same ⟨network, [], .error (.schemaPush file fault)⟩ := by
  obtain ⟨contents, rest, rfl, closed⟩ := Cluster.takeSchemas_eq_error_iff.mp refused
  have found : ((cache id metadataCache).mapError (ClientError.schemaPush file)).run network =
      ⟨network, [], .ok (if network.cluster.hasCache metadataCache then some ⟨id, metadataCache⟩
        else none)⟩ := by
    rw [run_mapError, run_cache started]
    rfl
  unfold pushSchemas pushSchemasVia
  rw [run_bind_of_ok found]
  unfold Cluster.schemaFault? at closed
  cases present : network.cluster.hasCache metadataCache with
  | false =>
    simp only [present, if_true, Option.some.injEq] at closed
    subst closed
    exact ⟨rfl, rfl⟩
  | true =>
    cases readOnly : (network.cluster.store metadataCache).readOnly with
    | false => simp [present, readOnly] at closed
    | true =>
      simp only [present, readOnly, Bool.true_eq_false, if_false, if_true,
        Option.some.injEq] at closed
      subst closed
      have put : (writeSchemas ⟨id, metadataCache⟩ ((file, contents) :: rest)).run network =
          ⟨network, [], .error (.schemaPush file (.rejected metadataCache "cache is read-only"))⟩ := by
        refine run_bind_of_error (run_bind_of_error ?_)
        rw [run_mapError, CacheHandle.put, run_through started,
          Cluster.run_put_of_readOnly readOnly]
        rfl
      simp only [if_true]
      rw [run_bind_of_error put]
      exact ⟨rfl, rfl⟩

end Network

end HotRod
