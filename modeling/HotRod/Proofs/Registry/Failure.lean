import HotRod.Proofs.Client.Assembly
import HotRod.Proofs.Client.Errors
import HotRod.Proofs.Registry.Lookup
set_option autoImplicit false

/-!
# Lookups without a manager

A lookup that gives no manager leaves nothing behind but what it cannot take back: an attempt to
connect, and when the server refused a schema, a connection whose manager is stopped. What decides its
exit is untouched by that, so it ends the same way when it is repeated.
-/

namespace HotRod

open HotRod.Action

theorem Cluster.takeSchemas_eq_error_of_caches_eq {cluster cluster' : Cluster}
    (caches : cluster'.caches = cluster.caches) {files : List (String × String)} {file : String}
    {fault : RemoteError} (refused : cluster.takeSchemas files = .error (file, fault)) :
    cluster'.takeSchemas files = .error (file, fault) := by
  obtain ⟨contents, rest, rfl, closed⟩ := takeSchemas_eq_error_iff.mp refused
  have same : cluster'.schemaFault? = cluster.schemaFault? := by
    unfold schemaFault? hasCache store
    rw [caches]
  exact takeSchemas_eq_error_iff.mpr ⟨contents, rest, rfl, same.trans closed⟩

namespace Network

theorem result_connect (network : Network) (configuration : Configuration) :
    ((connect configuration).run network).result =
      match network.refusal with
      | some reason => .error (.connection reason)
      | none =>
        if configuration.servers.isEmpty then .error (.connection "no servers configured")
        else .ok network.managers.length := by
  have counted : network.countAttempt.refusal = network.refusal := rfl
  unfold connect attemptConnection
  rw [bind_assoc, run_bind_of_ok (run_modify countAttempt network), bind_assoc,
    run_bind_of_ok (run_get _), counted]
  cases network.refusal with
  | some reason => rfl
  | none =>
    simp only [pure_bind]
    rw [establish, run_bind_of_ok (run_get _)]
    by_cases none : configuration.servers.isEmpty = true
    · rw [if_pos none, if_pos none]
      rfl
    · rw [if_neg none, if_neg none]
      rfl

/-- Whether a connection is made is up to the servers it is for, and to whether any is made. -/
theorem result_connect_of_refusal_eq {network network' : Network} {configuration : Configuration}
    (refusals : network'.refusal = network.refusal) :
    (∀ error, ((connect configuration).run network).result = .error error →
      ((connect configuration).run network').result = .error error) ∧
    (∀ id, ((connect configuration).run network).result = .ok id →
      ((connect configuration).run network').result = .ok network'.managers.length) := by
  rw [result_connect, result_connect, refusals]
  cases network.refusal with
  | some reason =>
    constructor
    · intro error refused
      exact refused
    · intro id connected
      contradiction
  | none =>
    by_cases none : configuration.servers.isEmpty = true
    · simp [none]
    · simp [none]

end Network

namespace Host
variable {files : Files} {client : String} {host : Host}
  {answer : Except ClientError (Option ManagerId)} {finish : Host}

theorem ofSettings_of_plan? {error : ClientError} (failed : host.plan? files client = .error error) :
    error.OfSettings := by
  have fails : (prepare files client).FailsWith ClientError.OfSettings := by
    refine failsWith_get.bind fun host => ?_
    cases host.registry.settings.usableDefinition? client with
    | none => exact failsWith_pure none
    | some definition =>
      refine FailsWith.bind (.onPart (ClientsSettings.failsWith_assemble files client)) ?_
      intro assembly
      by_cases none : assembly.draft.servers.isEmpty = true
      · rw [if_pos none]
        exact failsWith_pure _
      · rw [if_neg none]
        refine FailsWith.bind (failsWith_ofExcept ?_) fun _ => failsWith_pure _
        exact fun error refused => Draft.ofSettings_of_build refused
  exact fails host error failed

/-- All that the exit of a lookup is up to. -/
structure SameOutlook (host host' : Host) : Prop where
  fresh : host'.SameFresh host
  live : host'.registry.live = host.registry.live
  phase : host'.registry.phase = host.registry.phase
  refusal : host'.network.refusal = host.network.refusal
  caches : host'.network.cluster.caches = host.network.cluster.caches

namespace SameOutlook
variable {host' : Host}

theorem isClosed (same : host.SameOutlook host') :
    host'.registry.isClosed = host.registry.isClosed := by
  rw [Registry.isClosed, same.phase, Registry.isClosed]

theorem misses (same : host.SameOutlook host') (misses : host.Misses client) : host'.Misses client :=
  ⟨same.isClosed.trans misses.opened, by rw [same.live, misses.missing]⟩

end SameOutlook

theorem sameOutlook_planned : host.SameOutlook (host.planned files client) where
  fresh := fresh_planned
  live := live_planned
  phase := phase_planned
  refusal := by rw [network_planned]
  caches := by rw [network_planned]

namespace Lookup

theorem sameOutlook (lookup : host.Lookup files client answer finish)
    (without : ∀ id, answer ≠ .ok (some id)) : host.SameOutlook finish := by
  have planned := @sameOutlook_planned files client host
  cases lookup with
  | closed _ => exact ⟨rfl, rfl, rfl, rfl, rfl⟩
  | failed _ _ | skipped _ _ => exact planned
  | unconnected _ _ _ | rejected _ _ _ _ => exact ⟨planned.fresh, planned.live, planned.phase, rfl, rfl⟩
  | found _ _ | launched _ _ _ _ => exact absurd rfl (without _)

/-- Where the exit is up to the same, it is the same. -/
theorem again {host' : Host} (lookup : host.Lookup files client answer finish)
    (without : ∀ id, answer ≠ .ok (some id)) (same : host.SameOutlook host') :
    ∃ finish', host'.Lookup files client answer finish' := by
  have plans : host'.plan? files client = host.plan? files client := same.fresh.plan?_eq
  cases lookup with
  | closed closed => exact ⟨_, .closed (same.isClosed.trans closed)⟩
  | failed misses failed => exact ⟨_, .failed (same.misses misses) (plans.trans failed)⟩
  | skipped misses skipped => exact ⟨_, .skipped (same.misses misses) (plans.trans skipped)⟩
  | unconnected misses prepared lost =>
    have lost' := (Network.result_connect_of_refusal_eq same.refusal).1 _ lost
    exact ⟨_, .unconnected (same.misses misses) (plans.trans prepared) lost'⟩
  | rejected misses prepared connected refused =>
    have connected' := (Network.result_connect_of_refusal_eq same.refusal).2 _ connected
    rw [← filesToWrite_of_sameFresh same.fresh] at refused
    have caches : host'.network.cluster.addConnection.caches =
        host.network.cluster.addConnection.caches := same.caches
    have refused' := Cluster.takeSchemas_eq_error_of_caches_eq caches refused
    exact ⟨_, .rejected (same.misses misses) (plans.trans prepared) connected' refused'⟩
  | found _ _ | launched _ _ _ _ => exact absurd rfl (without _)

/-- A connection is left by a lookup without a manager only when the server refused a schema. -/
theorem leaves (lookup : host.Lookup files client answer finish)
    (without : ∀ id, answer ≠ .ok (some id)) :
    (∃ file fault configuration, answer = .error (.schemaPush file fault) ∧
      finish.network.cluster = host.network.cluster.addConnection ∧
      finish.network.managers = host.network.managers ++ [⟨configuration, false⟩]) ∨
    ((∀ file fault, answer ≠ .error (.schemaPush file fault)) ∧
      finish.network.cluster = host.network.cluster ∧
      finish.network.managers = host.network.managers) := by
  cases lookup with
  | closed _ => exact .inr ⟨nofun, rfl, rfl⟩
  | failed _ failed =>
    refine .inr ⟨?_, by rw [network_planned], by rw [network_planned]⟩
    rintro file fault ⟨⟩
    exact ofSettings_of_plan? failed
  | skipped _ _ => exact .inr ⟨nofun, by rw [network_planned], by rw [network_planned]⟩
  | unconnected _ _ _ => exact .inr ⟨nofun, rfl, rfl⟩
  | rejected _ _ _ _ => exact .inl ⟨_, _, _, rfl, rfl, Network.managers_markStopped_addManager⟩
  | found _ _ | launched _ _ _ _ => exact absurd rfl (without _)

end Lookup

/-- A lookup that gives no manager leaves the registered managers and the cluster as they are. Only a
schema that the server refuses leaves a trace, a connection whose manager is stopped. Repeated, the
lookup ends the same way. -/
theorem manager_leaves_nothing (files : Files) (name : String) (host : Host)
    (without : ∀ id, ((manager files name).run host).result ≠ .ok (some id)) :
    let done := (manager files name).run host
    done.state.registry.live = host.registry.live ∧ done.state.registry.phase = host.registry.phase ∧
    ((∃ file fault configuration, done.result = .error (.schemaPush file fault) ∧
        done.state.network.cluster = host.network.cluster.addConnection ∧
        done.state.network.managers = host.network.managers ++ [⟨configuration, false⟩]) ∨
      ((∀ file fault, done.result ≠ .error (.schemaPush file fault)) ∧
        done.state.network.cluster = host.network.cluster ∧
        done.state.network.managers = host.network.managers)) ∧
    ((manager files name).run done.state).result = done.result := by
  intro done
  obtain ⟨answer, finish, lookup⟩ := exists_lookup files (canonicalName name) host
  obtain ⟨left, given⟩ := lookup.same
  change done.state = finish at left
  change done.result = answer at given
  have without : ∀ id, answer ≠ .ok (some id) := given ▸ without
  have same := lookup.sameOutlook without
  obtain ⟨_, repeated⟩ := lookup.again without same
  rw [left, given]
  exact ⟨same.live, same.phase, lookup.leaves without, repeated.same.2⟩

end Host

def refusingHost : Host where
  network := { cluster := ({} : Cluster).rejectWrites metadataCache }
  registry := { settings := {
    runtime := { clients := KeyMap.ofPairs [("c", { hosts := some "h:1" })] }
    definitions := KeyMap.ofPairs [("c", {
      marshaller := some (.protoStream {})
      schemas := { initializers := [⟨"a.proto", "message A \x7b\x7d", []⟩] } })] } }

theorem refused_schema_leaves_nothing :
    let done := (Host.manager .missing "c").run refusingHost
    (∃ file fault configuration, done.result = .error (.schemaPush file fault) ∧
      done.state.network.cluster = refusingHost.network.cluster.addConnection ∧
      done.state.network.managers = [⟨configuration, false⟩]) ∧
    ((Host.manager .missing "c").run done.state).result = done.result := by
  intro done
  have failed : done.result.toBool = false := by decide +kernel
  have connected : done.state.network.managers.length = 1 := by decide +kernel
  have without : ∀ id, done.result ≠ .ok (some id) := by
    intro id given
    rw [given] at failed
    contradiction
  obtain ⟨-, -, left, repeated⟩ := Host.manager_leaves_nothing .missing "c" refusingHost without
  refine ⟨left.resolve_right ?_, repeated⟩
  rintro ⟨-, -, managers⟩
  rw [managers] at connected
  contradiction

end HotRod
