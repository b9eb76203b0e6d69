import HotRod.Proofs.Client.Servers
import HotRod.Proofs.Registry.Description
import HotRod.Proofs.Registry.Safety
set_option autoImplicit false

/-!
# What is connected

A configuration is connected only if it is valid and keeps the whole effective bag of its client. Each
stage of an assembly does a part of that: the reader of addresses, the checks of a draft, and the rule
that a client without servers is skipped. Nothing between them and the connection loses it.
-/

namespace HotRod

open HotRod.Action

namespace ClientsSettings

/-- All properties of a client: its own, with the schema files that its registration embeds, and the
runtime settings written over them. -/
def effectiveBag? (client : String) (settings : ClientsSettings) : Except ClientError Properties :=
  ((ClientDefinition.registerSchemas.run (settings.definitionOf client)).result).map
    (ClientDefinition.effectiveBag · settings.runtime.clients[client]?)

/-- The configuration is fit to connect the client with. -/
structure Warrants (settings : ClientsSettings) (client : String) (configuration : Configuration) :
    Prop where
  valid : configuration.Valid
  whole : settings.effectiveBag? client = .ok configuration.properties

variable {files : Files} {client : String} {settings settings' : ClientsSettings}

theorem SameFresh.effectiveBag?_eq (same : settings.SameFresh settings') :
    settings.effectiveBag? client = settings'.effectiveBag? client := by
  have definitions : (settings.definitionOf client).SameFresh (settings'.definitionOf client) := by
    rw [ClientDefinition.SameFresh, ← definitionOf_fresh, ← definitionOf_fresh, same]
  have runtimes := congrArg runtime same
  change settings.runtime = settings'.runtime at runtimes
  rw [effectiveBag?, (ClientDefinition.agree_registerSchemas _ _ definitions).1, runtimes]
  rfl

theorem SameFresh.warrants {configuration : Configuration} (same : settings.SameFresh settings')
    (warranted : settings.Warrants client configuration) : settings'.Warrants client configuration :=
  ⟨warranted.valid, same.effectiveBag?_eq ▸ warranted.whole⟩

/-- What is assembled with servers, and can be built, may be connected. -/
theorem warrants_of_assembled {assembly : Assembly} {configuration : Configuration}
    (made : settings.assembled files client = .ok assembly) (served : assembly.draft.servers ≠ [])
    (built : assembly.draft.build = .ok configuration) : settings.Warrants client configuration := by
  have part : ((ClientDefinition.assemble files settings.runtime client).run
      (settings.definitionOf client)).result = .ok assembly := made
  have named := ClientDefinition.servers_of_assemble (completes_of_result part)
  refine ⟨Draft.valid_of_build built served (Properties.wellFormed_of_servers named), ?_⟩
  rw [Draft.properties_of_build built]
  exact ClientDefinition.properties_of_assemble (completes_of_result part)

end ClientsSettings

namespace Host
variable {files : Files} {client : String} {host : Host}

theorem warrants_of_plan? {plan : Plan} (planned : host.plan? files client = .ok (some plan)) :
    host.registry.settings.Warrants client plan.configuration := by
  obtain ⟨assembly, made, served, built, -⟩ := exists_assembled_of_plan? planned
  exact ClientsSettings.warrants_of_assembled made served built

end Host

namespace Interleaving

theorem CallStep.fresh {caller : Nat} {s s' : Shared} {call call' : Call}
    (step : CallStep caller s call s' call') :
    s'.host.registry.settings.SameFresh s.host.registry.settings := by
  cases step with
  | lookup client step =>
    cases step with
    | fail | skip | prepare => exact Host.keeps_fresh_prepare _ _ _
    | _ => rfl
  | shutdown step =>
    cases step with
    | close _ => exact congrArg (fun kept => kept.2.2.fresh) (Host.keeps_beginShutdown _)
    | _ => rfl

/-- A lookup comes to connect only by planning. -/
theorem CallStep.planned {caller : Nat} {s s' : Shared} {call : Call} {client : String} {plan : Plan}
    (step : CallStep caller s call s' (.lookup client (.connecting plan))) :
    ∃ files, s.host.plan? files client = .ok (some plan) := by
  cases step with
  | lookup client step =>
    generalize reached : LookupPhase.connecting plan = phase at step
    cases step with
    | prepare planned =>
      cases reached
      exact ⟨_, planned⟩
    | connect _ =>
      unfold Shared.afterConnect at reached
      split at reached <;> contradiction
    | _ => contradiction

/-- The settings are those at the start, but for what marshallers have learned, and they warrant all
that is about to be connected. -/
structure Warranted (settings : ClientsSettings) (state : State) : Prop where
  fresh : state.shared.host.registry.settings.SameFresh settings
  connecting : ∀ client plan, Call.lookup client (.connecting plan) ∈ state.calls →
    settings.Warrants client plan.configuration

namespace Warranted
variable {settings : ClientsSettings} {before after : State}

theorem opened (network : Network) : Warranted settings (.opened network settings) :=
  ⟨rfl, fun _ _ member => absurd member List.not_mem_nil⟩

theorem step (warranted : Warranted settings before) (step : Step before after) :
    Warranted settings after := by
  cases step with
  | lookup name =>
    refine ⟨warranted.fresh, fun client plan member => warranted.connecting client plan ?_⟩
    simpa using member
  | shutdown =>
    refine ⟨warranted.fresh, fun client plan member => warranted.connecting client plan ?_⟩
    simpa using member
  | call present step =>
    refine ⟨step.fresh.trans warranted.fresh, fun client plan member => ?_⟩
    rcases List.mem_or_eq_of_mem_set member with other | rfl
    · exact warranted.connecting client plan other
    · obtain ⟨files, planned⟩ := step.planned
      exact warranted.fresh.warrants (Host.warrants_of_plan? planned)
  | outside _ => exact ⟨warranted.fresh, warranted.connecting⟩

theorem steps (warranted : Warranted settings before) (run : Steps before after) :
    Warranted settings after := by
  induction run with
  | refl => exact warranted
  | tail _ next ih => exact ih.step next

end Warranted

end Interleaving

namespace Host
variable {connector connector' : Connector} {files : Files} {client : String} {host : Host}

/-- Launching what may be connected is the same with connectors that agree on that. -/
theorem run_launch_eq {assembly : Assembly}
    (warranted : ∀ configuration, assembly.draft.build = .ok configuration →
      connector configuration = connector' configuration) :
    (launch connector client assembly).run host = (launch connector' client assembly).run host := by
  unfold launch
  refine run_bind_congr fun configuration built => ?_
  rw [run_ofExcept] at built
  rw [warranted configuration built]

theorem run_buildManager_eq
    (warranted : ∀ configuration, host.registry.settings.Warrants client configuration →
      connector configuration = connector' configuration) :
    (buildManager connector files client).run host =
      (buildManager connector' files client).run host := by
  unfold buildManager
  refine run_bind_congr fun _ _ => run_bind_congr fun present read => ?_
  obtain rfl : host = present := Except.ok.inj read
  change Action.run _ host = Action.run _ host
  cases host.registry.settings.usableDefinition? client with
  | none => rfl
  | some _ =>
    refine run_bind_congr fun assembly made => ?_
    by_cases empty : assembly.draft.servers.isEmpty = true
    · rw [if_pos empty, if_pos empty]
    · rw [if_neg empty, if_neg empty]
      have launched := @run_launch_eq connector connector' client
        ((assemble files client).run host).state assembly fun configuration built =>
          warranted configuration
            (ClientsSettings.warrants_of_assembled made (by simpa using empty) built)
      rw [run_bind, run_bind, launched]

theorem run_managerVia_eq {name : String}
    (warranted : ∀ configuration,
      host.registry.settings.Warrants (canonicalName name) configuration →
        connector configuration = connector' configuration) :
    (managerVia connector files name).run host = (managerVia connector' files name).run host := by
  unfold managerVia
  by_cases closed : host.registry.isClosed = true
  · have refused := run_ensureOpen_of_isClosed closed
    rw [run_bind_of_error refused, run_bind_of_error refused]
  · have entered := run_ensureOpen (Bool.not_eq_true _ ▸ closed)
    rw [run_bind_of_ok entered, run_bind_of_ok entered, run_bind_of_ok (run_get host),
      run_bind_of_ok (run_get host)]
    cases host.registry.live[canonicalName name]? with
    | some id => rfl
    | none => simp only [run_bind, run_buildManager_eq warranted]

end Host

namespace Interleaving

/-- A draft is built unless a cache or the authentication is refused. So whatever calls are made on a
registry and however their steps are interleaved, a lookup connects only a valid configuration that
keeps the whole effective bag of its client, and no other would reach another way to connect. -/
theorem only_valid_configurations_connect {network : Network} {settings : ClientsSettings}
    {state : State} (run : Steps (.opened network settings) state) :
    (∀ draft : Draft, (∃ configuration, draft.build = .ok configuration) ↔
      (∀ (name : String) (cache : CacheDraft), draft.caches[name]? = some cache → cache.Bounded) ∧
        draft.authentication.Identified) ∧
    (∀ client plan, Call.lookup client (.connecting plan) ∈ state.calls →
      settings.Warrants client plan.configuration) ∧
    (∀ (files : Files) (name : String) (host : Host) (connector connector' : Connector),
      (∀ configuration, host.registry.settings.Warrants (canonicalName name) configuration →
        connector configuration = connector' configuration) →
      (Host.managerVia connector files name).run host =
        (Host.managerVia connector' files name).run host) := by
  refine ⟨fun draft => Draft.exists_build_iff, ?_, ?_⟩
  · exact ((Warranted.opened network).steps run).connecting
  · intro files name host connector connector' agree
    exact Host.run_managerVia_eq agree

def connectServed : Connector := fun configuration =>
  if configuration.servers.isEmpty then Action.fail (.connection "unserved")
  else Host.connect configuration

/-- The lookup of a client with one server comes to connect it, and a lookup never connects without
servers. -/
theorem served_client_connects :
    (∃ state plan, Steps (.opened {} servedSettings) state ∧
      Call.lookup "c" (.connecting plan) ∈ state.calls ∧
      servedSettings.Warrants "c" plan.configuration) ∧
    ∀ host : Host, (Host.managerVia connectServed .missing "c").run host =
      (Host.managerVia Host.connect .missing "c").run host := by
  let s : Shared := { host := { registry := { settings := servedSettings } } }
  have planned : ∃ plan, s.host.plan? .missing "c" = .ok (some plan) := by
    obtain ⟨plan?, given⟩ := exists_ok_of_toBool
      (by decide +kernel : (s.host.plan? .missing "c").toBool = true)
    have some : (s.host.plan? .missing "c").toOption.join.isSome = true := by decide +kernel
    rw [given] at some
    obtain ⟨plan, rfl⟩ := Option.isSome_iff_exists.mp some
    exact ⟨plan, given⟩
  obtain ⟨plan, planned⟩ := planned
  have missing : s.live["c"]? = none := Std.ExtTreeMap.getElem?_empty
  have steps : CallSteps 0 (s, .lookup "c" .arriving)
      ((((s.createLock "c").take "c" 0).perform (Host.prepare .missing "c")),
        .lookup "c" (.connecting plan)) := by
    refine .head (.lookup "c" (.enter rfl)) (.head (.lookup "c" (.miss missing)) ?_)
    refine .head (.lookup "c" .fetch) (.head (.lookup "c" (.take (by simp [s]))) ?_)
    refine .head (.lookup "c" (.reenter rfl)) (.head (.lookup "c" (.remiss missing)) ?_)
    exact .single (.lookup "c" (.prepare planned))
  have run : Steps (.opened {} servedSettings) _ :=
    @Steps.of_arrived s [] _ _ (.lookup "c") steps
  obtain ⟨-, warranted, unreached⟩ := only_valid_configurations_connect run
  refine ⟨⟨_, plan, run, List.mem_singleton_self _, ?_⟩, fun host => unreached _ _ host _ _ ?_⟩
  · exact warranted "c" plan (List.mem_singleton_self _)
  · intro configuration fit
    have served : ¬ configuration.servers.isEmpty = true := by simpa using fit.valid.served
    rw [connectServed, if_neg served]

end Interleaving

end HotRod
