import HotRod.Proofs.Client.Endpoint
import HotRod.Proofs.Configuration.Build
import HotRod.Proofs.Registry.Failure
set_option autoImplicit false

/-!
# What a description of a client foretells

A description assembles a client and builds its draft, without a registry. A lookup on a new registry
does the same in another order: it asks first whether there is anything to assemble from, and whether
there are servers before the draft is built. The one configuration they have in common is the one that
is connected.
-/

namespace HotRod

open HotRod.Action

namespace ClientsSettings
variable {files : Files} {client : String} {settings : ClientsSettings}

/-- The client of these settings, put together but not checked as a whole. -/
def assembled (files : Files) (client : String) (settings : ClientsSettings) :
    Except ClientError Assembly :=
  ((assemble files client).run settings).result

def described (files : Files) (client : String) (settings : ClientsSettings) :
    Except ClientError Configuration :=
  ((resolve files client).run settings).result

/-- Settings that say nothing of a client, or that leave it without servers. -/
def NamesNoServers (files : Files) (client : String) (settings : ClientsSettings) : Prop :=
  (settings.runtime.clients[client]? = none ∧
      (settings.definitionOf client).properties.isEmpty = true) ∨
    ∃ assembly, settings.assembled files client = .ok assembly ∧ assembly.draft.servers = []

theorem described_of_assembled {assembly : Assembly}
    (made : settings.assembled files client = .ok assembly) :
    settings.described files client = assembly.draft.build := by
  have same := @same_bind_of_ok _ _ _ _ _ (fun assembly => ofExcept assembly.draft.build) _ _ made
  rw [described, resolve, same.2, run_ofExcept]

theorem described_of_assembled_error {error : ClientError}
    (failed : settings.assembled files client = .error error) :
    settings.described files client = .error error := by
  have same := @same_bind_of_error _ _ _ _ _ (fun assembly => ofExcept assembly.draft.build) _ _ failed
  exact same.2

theorem keeps_resolve (files : Files) (client : String) : (resolve files client).Keeps fresh := by
  refine (keeps_assemble files client).bind fun assembly settings => ?_
  rw [run_ofExcept]

theorem exists_assembled_of_described {configuration : Configuration}
    (shown : settings.described files client = .ok configuration) :
    ∃ assembly, settings.assembled files client = .ok assembly ∧
      assembly.draft.build = .ok configuration := by
  cases made : settings.assembled files client with
  | error error =>
    rw [described_of_assembled_error made] at shown
    contradiction
  | ok assembly =>
    rw [described_of_assembled made] at shown
    exact ⟨assembly, rfl, shown⟩

theorem cases_of_unusable (unusable : settings.usableDefinition? client = none) :
    settings.runtime.clients[client]? = none ∧
      (settings.definitionOf client).properties.isEmpty = true := by
  unfold usableDefinition? at unusable
  rw [definitionOf]
  cases runtime? : settings.runtime.clients[client]? with
  | some runtime => cases own : settings.definitions[client]? <;> simp [runtime?, own] at unusable
  | none =>
    cases own : settings.definitions[client]? with
    | none => exact ⟨rfl, rfl⟩
    | some definition => simpa [runtime?, own] using unusable

theorem servers_of_unusable {assembly : Assembly}
    (unusable : settings.usableDefinition? client = none)
    (made : settings.assembled files client = .ok assembly) : assembly.draft.servers = [] := by
  obtain ⟨sectionless, empty⟩ := cases_of_unusable unusable
  have part : ((ClientDefinition.assemble files settings.runtime client).run
      (settings.definitionOf client)).result = .ok assembly := made
  have servers := ClientDefinition.servers_of_assemble (completes_of_result part)
  rw [sectionless, Std.ExtTreeMap.isEmpty_iff.mp empty] at servers
  exact (Except.ok.inj servers).symm

end ClientsSettings

namespace Host
variable {files : Files} {client : String} {host : Host}

theorem plan?_of_unusable (unusable : host.registry.settings.usableDefinition? client = none) :
    host.plan? files client = .ok none := by
  rw [plan?, prepare, run_bind_of_ok (run_get host), unusable]
  rfl

theorem plan?_of_usable {definition : ClientDefinition}
    (usable : host.registry.settings.usableDefinition? client = some definition) :
    host.plan? files client = do
      let assembly ← host.registry.settings.assembled files client
      if assembly.draft.servers.isEmpty then return none
      else
        let configuration ← assembly.draft.build
        return some ⟨configuration, assembly.schemaFiles⟩ := by
  rw [plan?, prepare, run_bind_of_ok (run_get host), usable]
  change ((assemble files client >>= _).run host).result = _
  have part : ((assemble files client).run host).result =
      host.registry.settings.assembled files client := rfl
  cases made : host.registry.settings.assembled files client with
  | error error => exact (same_bind_of_error (part.trans made)).2
  | ok assembly =>
    rw [(same_bind_of_ok (part.trans made)).2]
    by_cases none : assembly.draft.servers.isEmpty = true
    · rw [if_pos none]
      change _ = if assembly.draft.servers.isEmpty then _ else _
      rw [if_pos none]
      rfl
    · rw [if_neg none]
      change _ = if assembly.draft.servers.isEmpty then _ else _
      rw [if_neg none]
      cases built : assembly.draft.build with
      | error error => rfl
      | ok configuration => rfl

theorem exists_assembled_of_plan? {plan : Plan} (planned : host.plan? files client = .ok (some plan)) :
    ∃ assembly, host.registry.settings.assembled files client = .ok assembly ∧
      assembly.draft.servers ≠ [] ∧ assembly.draft.build = .ok plan.configuration ∧
      plan.schemaFiles = assembly.schemaFiles := by
  cases usable : host.registry.settings.usableDefinition? client with
  | none =>
    rw [plan?_of_unusable usable] at planned
    cases planned
  | some definition =>
    rw [plan?_of_usable usable] at planned
    obtain ⟨assembly, made, rest⟩ := bind_eq_ok_iff.mp planned
    refine ⟨assembly, made, ?_⟩
    by_cases empty : assembly.draft.servers.isEmpty = true
    · rw [if_pos empty] at rest
      cases rest
    · rw [if_neg empty] at rest
      obtain ⟨configuration, built, kept⟩ := bind_eq_ok_iff.mp rest
      cases kept
      exact ⟨by simpa using empty, built, rfl⟩

/-- A configuration with servers is planned as it is described. -/
theorem plan?_of_described {configuration : Configuration}
    (shown : host.registry.settings.described files client = .ok configuration)
    (servers : configuration.servers ≠ []) :
    ∃ schemaFiles, host.plan? files client = .ok (some ⟨configuration, schemaFiles⟩) := by
  obtain ⟨assembly, made, built⟩ := ClientsSettings.exists_assembled_of_described shown
  have same := Draft.servers_of_build built
  rw [same] at servers
  cases usable : host.registry.settings.usableDefinition? client with
  | none => exact absurd (ClientsSettings.servers_of_unusable usable made) servers
  | some definition =>
    have present : ¬ assembly.draft.servers.isEmpty = true := by simpa using servers
    refine ⟨assembly.schemaFiles, ?_⟩
    rw [plan?_of_usable usable, made]
    change (if assembly.draft.servers.isEmpty then _ else _) = _
    rw [if_neg present, built]
    rfl

theorem plan?_of_described_without_servers {configuration : Configuration}
    (shown : host.registry.settings.described files client = .ok configuration)
    (empty : configuration.servers = []) : host.plan? files client = .ok none := by
  obtain ⟨assembly, made, built⟩ := ClientsSettings.exists_assembled_of_described shown
  rw [Draft.servers_of_build built] at empty
  cases usable : host.registry.settings.usableDefinition? client with
  | none => exact plan?_of_unusable usable
  | some definition =>
    rw [plan?_of_usable usable, made]
    change (if assembly.draft.servers.isEmpty then _ else _) = _
    rw [empty]
    rfl

/-- What cannot be described is not planned either, unless it is skipped before it comes to that. -/
theorem plan?_of_described_error {error : ClientError}
    (failed : host.registry.settings.described files client = .error error) :
    host.plan? files client = .error error ∨
      host.plan? files client = .ok none ∧ host.registry.settings.NamesNoServers files client := by
  cases usable : host.registry.settings.usableDefinition? client with
  | none => exact .inr ⟨plan?_of_unusable usable, .inl (ClientsSettings.cases_of_unusable usable)⟩
  | some definition =>
    rw [plan?_of_usable usable]
    cases made : host.registry.settings.assembled files client with
    | error cause =>
      rw [ClientsSettings.described_of_assembled_error made] at failed
      cases failed
      exact .inl rfl
    | ok assembly =>
      rw [ClientsSettings.described_of_assembled made] at failed
      change (if assembly.draft.servers.isEmpty then _ else _) = _ ∨
        (if assembly.draft.servers.isEmpty then _ else _) = _ ∧ _
      by_cases none : assembly.draft.servers.isEmpty = true
      · rw [if_pos none]
        exact .inr ⟨rfl, .inr ⟨assembly, made, List.isEmpty_iff.mp none⟩⟩
      · rw [if_neg none, failed]
        exact .inl rfl

/-- A lookup on a new registry connects what is described, once, or nothing at all. What the
marshallers learned from being described, before or after, makes no difference. -/
theorem manager_connects_what_is_described (files : Files) (name : String)
    {settings shared : ClientsSettings} {network : Network} (same : shared.SameFresh settings)
    (reachable : network.refusal = none) :
    let client := canonicalName name
    let done := (manager files name).run { network, registry := { settings := shared } }
    (∀ configuration, settings.described files client = .ok configuration →
      configuration.servers ≠ [] →
        done.state.network.attempts = network.attempts + 1 ∧
        done.state.network.cluster.connections = network.cluster.connections + 1 ∧
        (done.result = .ok (some network.managers.length) ∧
            done.state.network.managers = network.managers ++ [⟨configuration, true⟩] ∨
          (∃ file fault, done.result = .error (.schemaPush file fault) ∧
            network.cluster.schemaFault? = some fault) ∧
            done.state.network.managers = network.managers ++ [⟨configuration, false⟩])) ∧
    (∀ configuration, settings.described files client = .ok configuration →
      configuration.servers = [] → done.result = .ok none ∧ done.state.network = network) ∧
    (∀ error, settings.described files client = .error error →
      done.state.network = network ∧
        (done.result = .error error ∨
          done.result = .ok none ∧ settings.NamesNoServers files client)) := by
  intro client done
  let host : Host := { network, registry := { settings := shared } }
  let twin : Host := { network, registry := { settings } }
  have misses : host.Misses client := ⟨rfl, Std.ExtTreeMap.getElem?_empty⟩
  have plans : host.plan? files client = twin.plan? files client := SameFresh.plan?_eq same
  have ends {answer : Except ClientError (Option ManagerId)} {finish : Host}
      (lookup : host.Lookup files client answer finish) :
      done.result = answer ∧ done.state.network = finish.network :=
    ⟨lookup.same.2, congrArg Host.network lookup.same.1⟩
  refine ⟨?_, ?_, ?_⟩
  · intro configuration shown servers
    obtain ⟨schemaFiles, planned⟩ := @plan?_of_described files client twin configuration shown servers
    have prepared := plans.trans planned
    have present : ¬ configuration.servers.isEmpty = true := by simpa using servers
    have connected : ((Network.connect configuration).run host.network).result =
        .ok network.managers.length := by
      rw [Network.result_connect, reachable]
      exact if_neg present
    let plan : Plan := ⟨configuration, schemaFiles⟩
    cases taken : network.cluster.addConnection.takeSchemas (plan.filesToWrite shared) with
    | ok written =>
      obtain ⟨result, left⟩ := ends (.launched misses prepared connected taken)
      rw [result, left]
      exact ⟨rfl, Cluster.connections_of_takeSchemas taken, .inl ⟨rfl, rfl⟩⟩
    | error refusal =>
      obtain ⟨file, fault⟩ := refusal
      obtain ⟨result, left⟩ := ends (.rejected misses prepared connected taken)
      obtain ⟨contents, rest, -, closed⟩ := Cluster.takeSchemas_eq_error_iff.mp taken
      rw [result, left]
      refine ⟨rfl, rfl, .inr ⟨⟨file, fault, rfl, closed⟩, ?_⟩⟩
      exact Network.managers_markStopped_addManager
  · intro configuration shown empty
    have planned := @plan?_of_described_without_servers files client twin configuration shown empty
    obtain ⟨result, left⟩ := ends (.skipped misses (plans.trans planned))
    exact ⟨result, left.trans network_planned⟩
  · intro error failed
    rcases @plan?_of_described_error files client twin error failed with refused | ⟨skipped, why⟩
    · obtain ⟨result, left⟩ := ends (.failed misses (plans.trans refused))
      exact ⟨left.trans network_planned, .inl result⟩
    · obtain ⟨result, left⟩ := ends (.skipped misses (plans.trans skipped))
      exact ⟨left.trans network_planned, .inr ⟨result, why⟩⟩

end Host

def describedHost : Host where
  registry := {
    settings := ((ClientsSettings.resolve .missing "c").run refusingHost.registry.settings).state }

theorem described_client_is_connected :
    ∃ configuration, refusingHost.registry.settings.described .missing "c" = .ok configuration ∧
      ((Host.manager .missing "c").run describedHost).result = .ok (some 0) ∧
      ((Host.manager .missing "c").run describedHost).state.network.managers =
        [⟨configuration, true⟩] := by
  obtain ⟨configuration, given, named⟩ := Option.map_eq_some_iff.mp (by decide +kernel :
    (refusingHost.registry.settings.described .missing "c").toOption.map (·.servers) =
      some [⟨"h", 1⟩])
  have shown := eq_ok_of_toOption given
  have servers : configuration.servers ≠ [] := named ▸ List.cons_ne_nil _ _
  have same : describedHost.registry.settings.SameFresh refusingHost.registry.settings :=
    ClientsSettings.keeps_resolve .missing "c" _
  have canonical : canonicalName "c" = "c" := by decide
  obtain ⟨connects, -, -⟩ := Host.manager_connects_what_is_described .missing "c" same
    (rfl : describedHost.network.refusal = none)
  have opened : describedHost.network.cluster.schemaFault?.isSome = false := by decide +kernel
  rcases (connects configuration (canonical ▸ shown) servers).2.2 with launched | refused
  · exact ⟨configuration, shown, launched⟩
  · obtain ⟨⟨file, fault, -, closed⟩, -⟩ := refused
    rw [closed] at opened
    contradiction

end HotRod
