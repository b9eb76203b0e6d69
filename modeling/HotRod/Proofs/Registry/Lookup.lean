import HotRod.Proofs.Client.Fresh
import HotRod.Proofs.Network.Schemas
import HotRod.Proofs.Registry.Rely
import HotRod.Proofs.Registry.Sequential
set_option autoImplicit false

/-!
# Exits of a lookup

A lookup that no other call disturbs ends at one of seven exits, each with its answer and the host it
leaves. Nothing is registered but at the last of them, and a manager is connected only at the last two.
What the marshallers in the settings have learned has no part in which exit it is.
-/

namespace HotRod

open HotRod.Action

namespace ClientsSettings

theorem usableDefinition?_fresh (settings : ClientsSettings) (client : String) :
    settings.fresh.usableDefinition? client =
      (settings.usableDefinition? client).map ClientDefinition.fresh := by
  have runtimes : settings.fresh.runtime = settings.runtime := rfl
  unfold usableDefinition?
  rw [getElem?_fresh, runtimes]
  cases settings.definitions[client]? with
  | none => cases settings.runtime.clients[client]? <;> rfl
  | some definition =>
    cases settings.runtime.clients[client]? with
    | some runtime => rfl
    | none => by_cases empty : definition.properties.isEmpty = true <;> simp [empty, ClientDefinition.fresh]

theorem SameFresh.usableDefinition?_eq_none_iff {settings settings' : ClientsSettings}
    (same : settings.SameFresh settings') (client : String) :
    settings.usableDefinition? client = none ↔ settings'.usableDefinition? client = none := by
  have fresh := congrArg (·.usableDefinition? client) same
  simp only [usableDefinition?_fresh] at fresh
  rw [← Option.map_eq_none_iff (f := ClientDefinition.fresh), fresh, Option.map_eq_none_iff]

end ClientsSettings

def Plan.filesToWrite (settings : ClientsSettings) (plan : Plan) : List (String × String) :=
  if settings.runtime.registersSchemas then plan.schemaFiles else []

namespace Network
variable {network : Network} {configuration : Configuration}

theorem managers_markStopped_addManager :
    ((network.addManager configuration).markStopped network.managers.length).managers =
      network.managers ++ [⟨configuration, false⟩] := by
  unfold markStopped addManager
  induction network.managers with
  | nil => rfl
  | cons manager managers ih => simpa using ih

theorem isStarted_addManager :
    (network.addManager configuration).isStarted network.managers.length = true := by
  simp [isStarted, addManager]

theorem state_stop_addManager {ε : Type} :
    ((stop network.managers.length : Action Network ε Unit).run
      (network.addManager configuration)).state =
        (network.addManager configuration).markStopped network.managers.length := by
  rcases (network.addManager configuration).state_stop (ε := ε) network.managers.length with
    ⟨-, stopped⟩ | marked
  · rw [isStarted_addManager] at stopped
    contradiction
  · exact marked

end Network

namespace Host

/-- Hosts with the same settings but for what the marshallers have learned. -/
abbrev SameFresh (host host' : Host) : Prop :=
  host.registry.settings.SameFresh host'.registry.settings

theorem agree_prepare (files : Files) (client : String) :
    (prepare files client).Agree SameFresh (prepare files client) := by
  apply Agree.get_bind
  intro host host' same
  have usable := ClientsSettings.SameFresh.usableDefinition?_eq_none_iff same client
  have assembled : (assemble files client).Agree SameFresh (assemble files client) := by
    apply (ClientsSettings.agree_assemble files client).onPart
    · exact fun _ _ same => same
    · exact fun _ _ _ _ _ same => same
  cases found : host.registry.settings.usableDefinition? client with
  | none =>
    rw [usable.mp found]
    exact agree_pure none
  | some definition =>
    cases found' : host'.registry.settings.usableDefinition? client with
    | none => simp [usable.mpr found'] at found
    | some definition' =>
      refine assembled.bind fun assembly => ?_
      by_cases none : assembly.draft.servers.isEmpty = true
      · rw [if_pos none]
        exact agree_pure _
      · rw [if_neg none]
        exact (agree_ofExcept _).bind fun _ => agree_pure _

theorem keeps_fresh_prepare (files : Files) (client : String) :
    (prepare files client).Keeps (·.registry.settings.fresh) := by
  refine keeps_get.bind fun host => ?_
  cases host.registry.settings.usableDefinition? client with
  | none => exact keeps_pure none
  | some definition =>
    refine Keeps.bind (fun host => ClientsSettings.keeps_assemble files client _) fun assembly => ?_
    by_cases none : assembly.draft.servers.isEmpty = true
    · rw [if_pos none]
      exact keeps_pure _
    · rw [if_neg none]
      refine Keeps.bind ?_ fun configuration => keeps_pure _
      intro state
      rw [run_ofExcept]

def plan? (files : Files) (client : String) (host : Host) : Except ClientError (Option Plan) :=
  ((prepare files client).run host).result

def planned (files : Files) (client : String) (host : Host) : Host :=
  ((prepare files client).run host).state

variable {files : Files} {client : String} {host : Host}

theorem network_planned : (host.planned files client).network = host.network :=
  network_prepare files client host

theorem live_planned : (host.planned files client).registry.live = host.registry.live :=
  live_prepare files client host

theorem phase_planned : (host.planned files client).registry.phase = host.registry.phase :=
  congrArg (·.2.2) (keeps_prepare files client host)

theorem fresh_planned :
    (host.planned files client).registry.settings.fresh = host.registry.settings.fresh :=
  keeps_fresh_prepare files client host

theorem isClosed_planned : (host.planned files client).registry.isClosed = host.registry.isClosed :=
  isClosed_prepare files client host

theorem SameFresh.plan?_eq {host' : Host} (same : host.SameFresh host') :
    host.plan? files client = host'.plan? files client :=
  (agree_prepare files client host host' same).1

theorem filesToWrite_of_sameFresh {host' : Host} (same : host.SameFresh host') (plan : Plan) :
    plan.filesToWrite host.registry.settings = plan.filesToWrite host'.registry.settings := by
  have runtimes := congrArg ClientsSettings.runtime same
  change host.registry.settings.runtime = host'.registry.settings.runtime at runtimes
  rw [Plan.filesToWrite, runtimes, Plan.filesToWrite]

/-- The client is still to be connected. -/
structure Misses (client : String) (host : Host) : Prop where
  opened : host.registry.isClosed = false
  missing : host.registry.live[client]? = none

inductive Lookup (files : Files) (client : String) (host : Host) :
    Except ClientError (Option ManagerId) → Host → Prop
  | closed : host.registry.isClosed = true →
      Lookup files client host (.error .registryClosed) host
  | found {id : ManagerId} : host.registry.isClosed = false → host.registry.live[client]? = some id →
      Lookup files client host (.ok (some id)) host
  | failed {error : ClientError} : host.Misses client → host.plan? files client = .error error →
      Lookup files client host (.error error) (host.planned files client)
  | skipped : host.Misses client → host.plan? files client = .ok none →
      Lookup files client host (.ok none) (host.planned files client)
  | unconnected {plan : Plan} {error : RemoteError} : host.Misses client →
      host.plan? files client = .ok (some plan) →
      ((Network.connect plan.configuration).run host.network).result = .error error →
      Lookup files client host (.error (.remote error))
        ((host.planned files client).setNetwork host.network.countAttempt)
  | rejected {plan : Plan} {id : ManagerId} {file : String} {fault : RemoteError} :
      host.Misses client → host.plan? files client = .ok (some plan) →
      ((Network.connect plan.configuration).run host.network).result = .ok id →
      host.network.cluster.addConnection.takeSchemas (plan.filesToWrite host.registry.settings) =
        .error (file, fault) →
      Lookup files client host (.error (.schemaPush file fault))
        ((host.planned files client).setNetwork
          ((host.network.countAttempt.addManager plan.configuration).markStopped
            host.network.managers.length))
  | launched {plan : Plan} {id : ManagerId} {written : Cluster} :
      host.Misses client → host.plan? files client = .ok (some plan) →
      ((Network.connect plan.configuration).run host.network).result = .ok id →
      host.network.cluster.addConnection.takeSchemas (plan.filesToWrite host.registry.settings) =
        .ok written →
      Lookup files client host (.ok (some host.network.managers.length))
        (((host.planned files client).setNetwork
          ((host.network.countAttempt.addManager plan.configuration).setCluster written)).setRegistry
            ((host.planned files client).registry.insert client host.network.managers.length))

end Host

namespace Interleaving.Rest

open Host

variable {files : Files} {client : String} {host : Host} {plan : Plan} {id : ManagerId}

theorem same_prepare_of_misses (misses : host.Misses client) :
    ((lookup files client).run host).Same ((prepare files client).run host) := by
  have entered := run_ensureOpen misses.opened
  rw [lookup, run_bind_of_ok entered, look, run_bind_of_ok (run_get host), misses.missing,
    recheck, run_bind_of_ok entered, relook, run_bind_of_ok (run_get host), misses.missing]
  exact ⟨rfl, rfl⟩

theorem same_connect_of_planned (misses : host.Misses client)
    (prepared : host.plan? files client = .ok (some plan)) :
    ((lookup files client).run host).Same
      ((connect client plan).run (host.planned files client)) :=
  (same_prepare_of_misses misses).trans (same_bind_of_ok prepared)

theorem same_push_of_connected (connected : ((Network.connect plan.configuration).run
      host.network).result = .ok id) :
    ((connect client plan).run host).Same
      ((push client host.network.managers.length
        (plan.filesToWrite host.registry.settings)).run
          (host.setNetwork (host.network.countAttempt.addManager plan.configuration))) := by
  rcases host.network.connect_cases plan.configuration with ⟨error, failed, -⟩ | ⟨given, left⟩
  · rw [connected] at failed
    contradiction
  · have ran : ((mapError ClientError.remote (Host.connect plan.configuration)).run host).result =
        .ok host.network.managers.length := congrArg (Except.mapError ClientError.remote) given
    refine (same_bind_of_ok ran).trans ?_
    have state : ((mapError ClientError.remote (Host.connect plan.configuration)).run host).state =
        host.setNetwork (host.network.countAttempt.addManager plan.configuration) :=
      congrArg (host.setNetwork ·) left
    have kept (network : Network) : (host.setNetwork network).registry = host.registry := rfl
    rw [state, run_bind_of_ok (run_get _), kept, Plan.filesToWrite]
    by_cases registers : host.registry.settings.runtime.registersSchemas = true
    · rw [if_pos registers, if_pos registers]
      exact ⟨rfl, rfl⟩
    · rw [if_neg registers, if_neg registers]
      exact ⟨rfl, rfl⟩

theorem same_confirm_of_taken {schemaFiles : List (String × String)} {written : Cluster}
    (started : host.network.isStarted id = true)
    (taken : host.network.cluster.takeSchemas schemaFiles = .ok written) :
    ((push client id schemaFiles).run host).Same
      ((confirm client id).run (host.setNetwork (host.network.setCluster written))) := by
  obtain ⟨left, given⟩ := Network.same_pushSchemas started taken
  have ran : ((attempt (onNetwork (Network.pushSchemas id schemaFiles)) :
      Action Host ClientError _).run host).result = .ok (.ok schemaFiles.length) :=
    congrArg Except.ok given
  refine (same_bind_of_ok ran).trans ?_
  have state : ((attempt (onNetwork (Network.pushSchemas id schemaFiles)) :
      Action Host ClientError _).run host).state =
        host.setNetwork (host.network.setCluster written) := congrArg (host.setNetwork ·) left
  rw [state]
  exact .refl _

theorem same_discard_of_refused {schemaFiles : List (String × String)} {file : String}
    {fault : RemoteError} (started : host.network.isStarted id = true)
    (refused : host.network.cluster.takeSchemas schemaFiles = .error (file, fault)) :
    ((push client id schemaFiles).run host).Same
      ((discard id (.schemaPush file fault)).run host) := by
  obtain ⟨left, given⟩ := Network.same_pushSchemas_of_fault started refused
  have ran : ((attempt (onNetwork (Network.pushSchemas id schemaFiles)) :
      Action Host ClientError _).run host).result = .ok (.error (.schemaPush file fault)) :=
    congrArg Except.ok given
  refine (same_bind_of_ok ran).trans ?_
  have state : ((attempt (onNetwork (Network.pushSchemas id schemaFiles)) :
      Action Host ClientError _).run host).state = host := congrArg (host.setNetwork ·) left
  rw [state]
  exact .refl _

theorem same_error_of_unconnected {error : RemoteError} (lost : ((Network.connect
      plan.configuration).run host.network).result = .error error) :
    ((connect client plan).run host).Same
      ⟨host.setNetwork host.network.countAttempt, [], .error (.remote error)⟩ := by
  rcases host.network.connect_cases plan.configuration with ⟨-, -, left⟩ | ⟨given, -⟩
  · have ran : ((mapError ClientError.remote (Host.connect plan.configuration)).run host).result =
        .error (.remote error) := congrArg (Except.mapError ClientError.remote) lost
    have state : ((mapError ClientError.remote (Host.connect plan.configuration)).run host).state =
        host.setNetwork host.network.countAttempt := congrArg (host.setNetwork ·) left
    refine (same_bind_of_error ran).trans ?_
    rw [state]
    exact .refl _
  · rw [lost] at given
    contradiction

theorem same_discard {network : Network} {configuration : Configuration} {error : ClientError} :
    ((discard network.managers.length error).run
        (host.setNetwork (network.addManager configuration))).Same
      ⟨host.setNetwork ((network.addManager configuration).markStopped network.managers.length), [],
        .error error⟩ := by
  have ran : ((onNetwork (Network.stop network.managers.length) : Action Host ClientError Unit).run
      (host.setNetwork (network.addManager configuration))).result = .ok () :=
    Network.result_stop _ _
  have state : ((onNetwork (Network.stop network.managers.length) : Action Host ClientError Unit).run
      (host.setNetwork (network.addManager configuration))).state =
        host.setNetwork ((network.addManager configuration).markStopped network.managers.length) :=
    congrArg (host.setNetwork ·) Network.state_stop_addManager
  refine (same_bind_of_ok ran).trans ?_
  rw [state]
  exact .refl _

theorem same_insert_of_opened (opened : host.registry.isClosed = false) :
    ((confirm client id).run host).Same
      ⟨host.setRegistry (host.registry.insert client id), [], .ok (some id)⟩ := by
  rw [confirm, run_bind_of_ok (run_get host), opened]
  exact ⟨rfl, rfl⟩

end Interleaving.Rest

namespace Host

namespace Lookup
variable {files : Files} {client : String} {host : Host}
  {answer : Except ClientError (Option ManagerId)} {finish : Host}

open Interleaving

/-- What a lookup does is said by its exit. -/
theorem same {name : String} (lookup : host.Lookup files (canonicalName name) answer finish) :
    ((manager files name).run host).Same ⟨finish, [], answer⟩ := by
  refine (Rest.alike_manager files name host).trans ?_
  let planned := host.planned files (canonicalName name)
  have network : planned.network = host.network := network_planned
  have fresh : planned.SameFresh host := fresh_planned
  cases lookup with
  | closed closed =>
    rw [Rest.lookup, run_bind_of_error (run_ensureOpen_of_isClosed closed)]
    exact ⟨rfl, rfl⟩
  | found opened live =>
    rw [Rest.lookup, run_bind_of_ok (run_ensureOpen opened), Rest.look, run_bind_of_ok (run_get host),
      live]
    exact ⟨rfl, rfl⟩
  | failed misses failed =>
    exact (Rest.same_prepare_of_misses misses).trans (same_bind_of_error failed)
  | skipped misses skipped =>
    exact (Rest.same_prepare_of_misses misses).trans (same_bind_of_ok skipped)
  | unconnected misses prepared lost =>
    rw [← network] at lost ⊢
    exact (Rest.same_connect_of_planned misses prepared).trans (Rest.same_error_of_unconnected lost)
  | @rejected plan id file fault misses prepared connected refused =>
    rw [← filesToWrite_of_sameFresh fresh] at refused
    rw [← network] at connected refused ⊢
    refine (Rest.same_connect_of_planned misses prepared).trans ?_
    refine (Rest.same_push_of_connected connected).trans ?_
    have started := @Network.isStarted_addManager planned.network.countAttempt plan.configuration
    refine (Rest.same_discard_of_refused started refused).trans ?_
    exact Rest.same_discard
  | @launched plan id written misses prepared connected taken =>
    rw [← filesToWrite_of_sameFresh fresh] at taken
    rw [← network] at connected taken ⊢
    refine (Rest.same_connect_of_planned misses prepared).trans ?_
    refine (Rest.same_push_of_connected connected).trans ?_
    have started := @Network.isStarted_addManager planned.network.countAttempt plan.configuration
    refine (Rest.same_confirm_of_taken started taken).trans ?_
    exact Rest.same_insert_of_opened (isClosed_planned.trans misses.opened)

end Lookup

/-- Every lookup ends at one of the exits. -/
theorem exists_lookup (files : Files) (client : String) (host : Host) :
    ∃ answer finish, host.Lookup files client answer finish := by
  by_cases closed : host.registry.isClosed = true
  · exact ⟨_, _, .closed closed⟩
  · have opened : host.registry.isClosed = false := Bool.not_eq_true _ ▸ closed
    cases missing : host.registry.live[client]? with
    | some id => exact ⟨_, _, .found opened missing⟩
    | none =>
      have misses : host.Misses client := ⟨opened, missing⟩
      cases prepared : host.plan? files client with
      | error error => exact ⟨_, _, .failed misses prepared⟩
      | ok plan? =>
        cases plan? with
        | none => exact ⟨_, _, .skipped misses prepared⟩
        | some plan =>
          cases connected : ((Network.connect plan.configuration).run host.network).result with
          | error error => exact ⟨_, _, .unconnected misses prepared connected⟩
          | ok id =>
            cases taken : host.network.cluster.addConnection.takeSchemas
              (plan.filesToWrite host.registry.settings) with
            | error refusal => exact ⟨_, _, .rejected misses prepared connected taken⟩
            | ok written => exact ⟨_, _, .launched misses prepared connected taken⟩

theorem exists_launched {files : Files} {name : String} {host : Host} {id : ManagerId}
    (missing : host.registry.live[canonicalName name]? = none)
    (built : ((manager files name).run host).result = .ok (some id)) :
    ∃ plan written, host.plan? files (canonicalName name) = .ok (some plan) ∧
      host.network.cluster.addConnection.takeSchemas (plan.filesToWrite host.registry.settings) =
        .ok written ∧
      id = host.network.managers.length ∧
      ((manager files name).run host).state =
        ((host.planned files (canonicalName name)).setNetwork
          ((host.network.countAttempt.addManager plan.configuration).setCluster written)).setRegistry
            ((host.planned files (canonicalName name)).registry.insert (canonicalName name) id) := by
  obtain ⟨answer, finish, lookup⟩ := exists_lookup files (canonicalName name) host
  obtain ⟨left, answered⟩ := lookup.same
  rw [built] at answered
  rw [left]
  cases lookup with
  | closed _ => cases answered
  | found _ live =>
    rw [missing] at live
    contradiction
  | failed _ _ => cases answered
  | skipped _ _ => cases answered
  | unconnected _ _ _ => cases answered
  | rejected _ _ _ _ => cases answered
  | launched _ prepared _ taken =>
    cases answered
    exact ⟨_, _, prepared, taken, rfl, rfl⟩

end Host

end HotRod
