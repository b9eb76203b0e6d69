import HotRod.Proofs.Cluster.Contents
import HotRod.Proofs.Network.Managers
set_option autoImplicit false

/-!
# What a network holds

A network holds what is in its caches, which of them are closed, its counters and its managers. To look
at caches, to define them and to create them changes nothing of that. Otherwise managers are added and
schema files are stored.
-/

namespace HotRod

open HotRod.Action

structure Holdings where
  contents : String → KeyMap ByteArray
  isReadOnly : String → Bool
  counters : Counters
  managers : List Manager

namespace Holdings

/-- Managers are added, and schema files are stored in their cache. -/
def grow (added : List Manager) (stored : List (String × String)) (holdings : Holdings) : Holdings :=
  { holdings with
    contents := Function.update holdings.contents metadataCache
      ((holdings.contents metadataCache).extend (stored.map fun (name, text) => (name, text.toUTF8)))
    managers := holdings.managers ++ added }

theorem grow_no_files (added : List Manager) (holdings : Holdings) :
    holdings.grow added [] = { holdings with managers := holdings.managers ++ added } := by
  rw [grow, List.map_nil, KeyMap.extend_nil, Function.update_eq_self]

theorem grow_nil (holdings : Holdings) : holdings.grow [] [] = holdings := by
  rw [grow_no_files, List.append_nil]

theorem grow_managers (added : List Manager) (stored : List (String × String)) (holdings : Holdings) :
    (holdings.grow added []).grow [] stored = holdings.grow added stored := by
  rw [grow_no_files, grow, grow, List.append_nil]

end Holdings

namespace Network
variable {network : Network} {id : ManagerId} {α : Type}

def holdings (network : Network) : Holdings where
  contents := network.cluster.contents
  isReadOnly := network.cluster.isReadOnly
  counters := network.cluster.counters
  managers := network.managers

theorem holdings_setStore (network : Network) (name : String) (store : CacheStore) :
    (network.setCluster (network.cluster.setStore name store)).holdings =
      { network.holdings with
        contents := Function.update network.cluster.contents name store.entries
        isReadOnly := Function.update network.cluster.isReadOnly name store.readOnly } := by
  have contents := Cluster.contents_setStore name store network.cluster
  have readOnly := Cluster.isReadOnly_setStore name store network.cluster
  rw [holdings, holdings, setCluster, contents, readOnly]
  rfl

theorem holdings_addManager (network : Network) (configuration : Configuration) :
    (network.countAttempt.addManager configuration).holdings =
      network.holdings.grow [⟨configuration, true⟩] [] := by
  rw [Holdings.grow_no_files]
  rfl

theorem holdings_of_takeSchemas {files : List (String × String)} {written : Cluster}
    (taken : network.cluster.takeSchemas files = .ok written) :
    (network.setCluster written).holdings = network.holdings.grow [] files ∧
      (files ≠ [] → network.cluster.isReadOnly metadataCache = false) := by
  cases files with
  | nil =>
    obtain rfl := Except.ok.inj taken
    rw [Holdings.grow_nil]
    exact ⟨rfl, fun some => absurd rfl some⟩
  | cons file rest =>
    obtain ⟨opened, rfl⟩ := Cluster.takeSchemas_cons_eq_ok_iff.mp taken
    refine ⟨?_, fun _ => (Cluster.schemaFault?_eq_none_iff.mp opened).2⟩
    have same : Function.update network.cluster.isReadOnly metadataCache
        (network.cluster.store metadataCache).readOnly = network.cluster.isReadOnly :=
      Function.update_eq_self metadataCache network.cluster.isReadOnly
    rw [Cluster.storeSchemas, holdings_setStore, same, Holdings.grow, List.append_nil]
    rfl

theorem contents_of_takeSchemas {files : List (String × String)} {written : Cluster}
    (taken : network.cluster.takeSchemas files = .ok written) :
    written.contents metadataCache = (network.cluster.contents metadataCache).extend
      (files.map fun (name, text) => (name, text.toUTF8)) := by
  have contents := congrArg (·.contents metadataCache) (holdings_of_takeSchemas taken).1
  simp only [Holdings.grow, Function.update_self] at contents
  exact contents

theorem run_through_of_stopped (stopped : network.isStarted id = false)
    (action : Action Cluster RemoteError α) :
    (through id action).run network = ⟨network, [], .error .stopped⟩ := by
  rw [through, run_bind_of_ok (run_get network), stopped]
  rfl

theorem keeps_holdings_through {action : Action Cluster RemoteError α}
    (kept : (onCluster action).Keeps holdings) (id : ManagerId) :
    (through id action).Keeps holdings := by
  intro network
  cases started : network.isStarted id with
  | false => rw [run_through_of_stopped started]
  | true =>
    rw [run_through started]
    exact kept network

theorem keeps_holdings_create (name template : String) :
    (onCluster (Cluster.create name template)).Keeps holdings := by
  intro network
  unfold Cluster.create
  by_cases valid : Cluster.isTemplate template = true
  · rw [if_pos valid, onCluster, run_onPart, run_bind_of_ok (run_get network.cluster)]
    by_cases there : network.cluster.hasCache name = true
    · rw [if_pos there]
      rfl
    · rw [if_neg there]
      have missing := Cluster.store_of_missing there
      have contents : Function.update network.cluster.contents name ({} : CacheStore).entries =
          network.cluster.contents := by
        rw [← missing]
        exact Function.update_eq_self name network.cluster.contents
      have readOnly : Function.update network.cluster.isReadOnly name ({} : CacheStore).readOnly =
          network.cluster.isReadOnly := by
        rw [← missing]
        exact Function.update_eq_self name network.cluster.isReadOnly
      have made := holdings_setStore network name {}
      rw [contents, readOnly] at made
      exact made
  · rw [if_neg valid]
    rfl

theorem keeps_holdings_getOrCreate (id : ManagerId) (name template : String) :
    (getOrCreate id name template).Keeps holdings := by
  apply Keeps.bind (keeps_holdings_through (keeps_holdings_create name template) id)
  intro _
  exact keeps_pure _

theorem keeps_holdings_cache (id : ManagerId) (name : String) : (cache id name).Keeps holdings :=
  keeps_holdings_through (fun _ => rfl) id

theorem keeps_holdings_defaultCache (id : ManagerId) : (defaultCache id).Keeps holdings :=
  keeps_holdings_through (fun _ => rfl) id

theorem run_pushSchemas_of_stopped (stopped : network.isStarted id = false)
    (files : List (String × String)) :
    (pushSchemas id files).run network =
      ⟨network, [], match files with
        | [] => .ok 0
        | (first, _) :: _ => .error (.schemaPush first .stopped)⟩ := by
  cases files with
  | nil => rfl
  | cons file rest =>
    have lost : ((cache id metadataCache).mapError (ClientError.schemaPush file.1)).run network =
        ⟨network, [], .error (.schemaPush file.1 .stopped)⟩ := by
      rw [run_mapError, cache, run_through_of_stopped stopped]
      rfl
    unfold pushSchemas pushSchemasVia
    rw [run_bind_of_error lost]

/-- All schema files are stored and counted, or none is. -/
theorem pushSchemas_cases (id : ManagerId) (files : List (String × String)) (network : Network) :
    (((pushSchemas id files).run network).result = .ok files.length ∧
      ((pushSchemas id files).run network).state.holdings = network.holdings.grow [] files ∧
      (files ≠ [] →
        network.isStarted id = true ∧ network.cluster.isReadOnly metadataCache = false)) ∨
    ∃ error, ((pushSchemas id files).run network).result = .error error ∧
      ((pushSchemas id files).run network).state = network := by
  cases started : network.isStarted id with
  | false =>
    rw [run_pushSchemas_of_stopped started]
    cases files with
    | nil => exact .inl ⟨rfl, (Holdings.grow_nil _).symm, fun some => absurd rfl some⟩
    | cons file rest => exact .inr ⟨_, rfl, rfl⟩
  | true =>
    cases taken : network.cluster.takeSchemas files with
    | error refusal =>
      obtain ⟨left, given⟩ := same_pushSchemas_of_fault started taken
      exact .inr ⟨_, given, left⟩
    | ok written =>
      obtain ⟨left, given⟩ := same_pushSchemas started taken
      obtain ⟨holdings, opened⟩ := holdings_of_takeSchemas taken
      rw [left]
      exact .inl ⟨given, holdings, fun some => ⟨rfl, opened some⟩⟩

theorem isStarted_state_stop {ε : Type} (network : Network) (id other : ManagerId) :
    ((stop id : Action Network ε Unit).run network).state.isStarted other =
      (network.isStarted other && decide (id ≠ other)) := by
  rcases network.state_stop (ε := ε) id with ⟨same, stopped⟩ | marked
  · rw [same]
    by_cases equal : id = other
    · subst equal
      rw [stopped, Bool.false_and]
    · simp [equal]
  · rw [marked]
    exact isStarted_markStopped network id other

theorem cluster_stop {ε : Type} (network : Network) (id : ManagerId) :
    ((stop id : Action Network ε Unit).run network).state.cluster = network.cluster := by
  rcases network.state_stop (ε := ε) id with ⟨same, -⟩ | marked
  · rw [same]
  · rw [marked]
    rfl

theorem length_managers_stop {ε : Type} (network : Network) (id : ManagerId) :
    ((stop id : Action Network ε Unit).run network).state.managers.length =
      network.managers.length := by
  rcases network.state_stop (ε := ε) id with ⟨same, -⟩ | marked
  · rw [same]
  · rw [marked]
    exact List.length_modify _ _ _

end Network

end HotRod
