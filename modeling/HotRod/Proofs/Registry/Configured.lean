import HotRod.Proofs.Registry.Description
import HotRod.Proofs.Registry.Footprint
set_option autoImplicit false

/-!
# What live managers were connected with

A manager keeps the configuration that it was connected with, stopped or not. In a site that comes about
a live manager of a client has a configuration that the settings of its registry describe.
-/

namespace HotRod

open HotRod.Action

namespace Network
variable {network : Network}

/-- The configurations that managers were connected with, in the order of connections. -/
def configurations (network : Network) : List Configuration :=
  network.managers.map Manager.configuration

theorem configurations_of_eq {left : Network} (same : left.configurations = network.configurations) :
    network.configurations <+: left.configurations := same ▸ List.prefix_refl _

theorem configurations_grow {left : Network} {added : List Manager} {stored : List (String × String)}
    (grown : left.holdings = network.holdings.grow added stored) :
    network.configurations <+: left.configurations := by
  have managers : left.managers = network.managers ++ added := congrArg Holdings.managers grown
  rw [configurations, configurations, managers, List.map_append]
  exact List.prefix_append _ _

theorem getElem?_configurations_addManager (network : Network) (configuration : Configuration) :
    (network.addManager configuration).configurations[network.managers.length]? =
      some configuration := by
  simp [configurations, addManager]

theorem configurations_markStopped (network : Network) (id : ManagerId) :
    (network.markStopped id).configurations = network.configurations := by
  unfold configurations markStopped
  refine List.ext_getElem? fun other => ?_
  rw [List.getElem?_map, List.getElem?_map, List.getElem?_modify]
  by_cases same : id = other <;> cases network.managers[other]? <;> simp [same]

theorem keeps_configurations_stop {ε : Type} (id : ManagerId) :
    (stop id : Action Network ε Unit).Keeps configurations := by
  intro network
  rcases network.state_stop (ε := ε) id with ⟨same, -⟩ | marked
  · rw [same]
  · rw [marked, configurations_markStopped]

theorem configurations_connect (network : Network) (configuration : Configuration) :
    network.configurations <+: ((connect configuration).run network).state.configurations := by
  rcases network.connect_cases configuration with ⟨_, -, left⟩ | ⟨-, left⟩
  · rw [left]
    exact List.prefix_refl _
  · rw [left]
    exact configurations_grow (network.holdings_addManager configuration)

theorem keeps_configurations_through {α : Type} (id : ManagerId)
    (action : Action Cluster RemoteError α) : (through id action).Keeps configurations :=
  fun network => congrArg (List.map _) (keeps_managers_through id action network)

theorem Request.configurations {ε α : Type} {request : Action Network ε α}
    (asked : Request request) (network : Network) :
    network.configurations <+: (request.run network).state.configurations := by
  cases asked with
  | connect configuration => exact network.configurations_connect configuration
  | stop id => exact configurations_of_eq (keeps_configurations_stop id network)
  | getOrCreate id name template =>
    apply configurations_of_eq
    exact ((keeps_configurations_through id _).bind fun _ => keeps_pure _) network
  | pushSchemas id files =>
    exact configurations_of_eq (congrArg (List.map _) (keeps_managers_pushSchemas id files network))
  | cache | defaultCache | cacheNames | get | put | remove | contains | size | clear =>
    exact configurations_of_eq (keeps_configurations_through _ _ network)
  | _ => exact List.prefix_refl _

end Network

theorem ClientsSettings.SameFresh.described_eq {files : Files} {client : String}
    {settings settings' : ClientsSettings} (same : settings.SameFresh settings') :
    settings.described files client = settings'.described files client := by
  have agree : (resolve files client).Agree SameFresh (resolve files client) :=
    (agree_assemble files client).bind fun _ => agree_ofExcept _
  exact (agree settings settings' same).1

namespace Host
variable {host : Host}

/-- The manager of every client has a configuration that is described. -/
def Configured (host : Host) : Prop :=
  ∀ (client : String) (id : ManagerId), host.registry.live[client]? = some id →
    ∃ files configuration, host.network.configurations[id]? = some configuration ∧
      host.registry.settings.described files client = .ok configuration

namespace Configured

theorem of_live {left : Host} (configured : host.Configured)
    (live : left.registry.live = host.registry.live)
    (grown : host.network.configurations <+: left.network.configurations)
    (same : left.registry.settings.SameFresh host.registry.settings) : left.Configured := by
  intro client id there
  rw [live] at there
  obtain ⟨files, configuration, connected, described⟩ := configured client id there
  refine ⟨files, configuration, getElem?_of_beginning grown connected, ?_⟩
  exact same.described_eq.trans described

theorem lookup {files : Files} {client : String} {answer : Except ClientError (Option ManagerId)}
    {left : Host} (configured : host.Configured) (lookup : host.Lookup files client answer left) :
    left.Configured := by
  have fresh : (host.planned files client).SameFresh host := fresh_planned
  obtain ⟨added, stored, called⟩ := lookup.called
  have grown := Network.configurations_grow called.holdings
  cases lookup with
  | closed _ => exact configured
  | found _ _ => exact configured
  | failed _ _ => exact configured.of_live live_planned grown fresh
  | skipped _ _ => exact configured.of_live live_planned grown fresh
  | unconnected _ _ _ => exact configured.of_live live_planned grown fresh
  | rejected _ _ _ _ => exact configured.of_live live_planned grown fresh
  | @launched plan id written misses planned _ _ =>
    obtain ⟨assembly, made, -, built, -⟩ := exists_assembled_of_plan? planned
    intro other id there
    change ((host.planned files client).registry.live.insert client _)[other]? = _ at there
    rw [live_planned, KeyMap.getElem?_insert] at there
    by_cases same : client = other
    · subst same
      rw [if_pos rfl] at there
      obtain rfl := Option.some.inj there
      refine ⟨files, plan.configuration,
        host.network.countAttempt.getElem?_configurations_addManager plan.configuration, ?_⟩
      refine (ClientsSettings.SameFresh.described_eq fresh).trans ?_
      rw [ClientsSettings.described_of_assembled made, built]
    · rw [if_neg same] at there
      obtain ⟨files', configuration, connected, described⟩ := configured other id there
      refine ⟨files', configuration, getElem?_of_beginning grown connected, ?_⟩
      exact (ClientsSettings.SameFresh.described_eq fresh).trans described

theorem provide {client cache : String} {wanted? : Option String} {id : ManagerId} :
    (Host.provide client cache wanted? id).Preserves Configured := by
  intro host configured
  have kept := keeps_provide client cache wanted? id host
  have registry := congrArg Prod.snd kept
  have managers := congrArg (fun kept => kept.1.managers) kept
  refine configured.of_live (congrArg Registry.live registry) ?_ ?_
  · exact Network.configurations_of_eq (congrArg (List.map Manager.configuration) managers)
  · exact congrArg (fun registry => registry.settings.fresh) registry

end Configured

theorem preserves_configured_manager (files : Files) (name : String) :
    (manager files name).Preserves Configured := by
  intro host configured
  obtain ⟨_, left, lookup⟩ := exists_lookup files (canonicalName name) host
  rw [lookup.same.1]
  exact configured.lookup lookup

/-- Whatever is asked of a registry, its live managers are configured as before. -/
theorem Request.preserves_configured {files : Files} {ε α : Type} {request : Action Host ε α}
    (asked : Request files request) (order : host.InOrder) (configured : host.Configured) :
    (request.run host).state.Configured := by
  cases asked with
  | manager name => exact preserves_configured_manager files name host configured
  | remoteCache name cache? =>
    rw [remoteCache_eq]
    refine (preserves_configured_manager files _).bind (fun id? => ?_) host configured
    cases id? with
    | none => exact (preserves_emit _).bind fun _ => preserves_fail _
    | some id => exact Configured.provide
  | counters name =>
    rw [state_counters]
    exact configured
  | shutdown =>
    intro client id live
    rw [(retired_shutdown order).live, Std.ExtTreeMap.getElem?_empty] at live
    contradiction

theorem keeps_configurations_retire (client : String) (id : ManagerId) :
    (retire client id : Action Host ClientError Unit).Keeps (·.network.configurations) := by
  have erased : (modifyRegistry (Registry.erase client) : Action Host ClientError Unit).Keeps
      (·.network.configurations) := fun _ => rfl
  have stopped : (onNetwork (Network.stop id) : Action Host ClientError Unit).Keeps
      (·.network.configurations) := fun host => Network.keeps_configurations_stop id host.network
  exact erased.bind fun _ => stopped.bind fun _ => keeps_emit _

theorem keeps_configurations_shutdown :
    (shutdown : Action Host ClientError Unit).Keeps (·.network.configurations) := by
  have begun : (beginShutdown : Action Host ClientError Unit).Keeps (·.network.configurations) :=
    fun host => congrArg Network.configurations (network_beginShutdown host)
  refine begun.bind fun _ => keeps_get.bind fun host => ?_
  by_cases closing : host.registry.phase = .closing
  · simp only [if_pos closing]
    refine Keeps.bind (Keeps.forEach fun entry => keeps_configurations_retire entry.1 entry.2) ?_
    exact fun _ => Keeps.bind (fun _ => rfl) fun _ => keeps_emit _
  · simp only [if_neg closing]
    exact keeps_pure ()

theorem Request.configurations {files : Files} {ε α : Type} {request : Action Host ε α}
    (asked : Request files request) (host : Host) :
    host.network.configurations <+: (request.run host).state.network.configurations := by
  cases asked with
  | manager name =>
    obtain ⟨added, stored, called⟩ := called_manager files name host
    exact Network.configurations_grow called.holdings
  | remoteCache name cache? =>
    obtain ⟨added, stored, called⟩ := called_remoteCache files name cache? host
    exact Network.configurations_grow called.holdings
  | counters name =>
    exact Network.configurations_of_eq
      (congrArg (fun host : Host => host.network.configurations) (state_counters name host))
  | shutdown => exact Network.configurations_of_eq (keeps_configurations_shutdown host)

end Host

namespace Site

/-- The managers of every client have configurations that the settings of its registry describe. -/
def Configured (site : Site) : Prop :=
  ∀ registry ∈ site.registries, Host.Configured ⟨site.network, registry⟩

theorem Configured.step {site after : Site} (order : site.InOrder) (configured : site.Configured)
    (step : Step site after) : after.Configured := by
  cases step with
  | opening settings =>
    intro registry member
    rcases List.mem_append.mp member with old | new
    · exact configured registry old
    · rw [List.mem_singleton.mp new]
      intro client id live
      rw [Std.ExtTreeMap.getElem?_empty] at live
      contradiction
  | @registry place host _ _ _ _ there asked =>
    have within := order.host there
    obtain ⟨own, here, rfl⟩ := Option.map_eq_some_iff.mp there
    have held := configured own (List.mem_of_getElem? here)
    intro registry member
    rcases List.mem_or_eq_of_mem_set member with other | rfl
    · exact (configured registry other).of_live rfl (asked.configurations ⟨site.network, own⟩) rfl
    · exact asked.preserves_configured within held
  | network asked =>
    intro registry member
    exact (configured registry member).of_live rfl (asked.configurations _) rfl

/-- In a site that comes about, a live manager was connected with what its client's settings describe. -/
theorem Reachable.configured {site : Site} (reachable : site.Reachable) : site.Configured := by
  induction reachable with
  | refl => exact fun _ member => absurd member List.not_mem_nil
  | tail before step ih => exact ih.step (Reachable.inOrder before) step

end Site

end HotRod
