import HotRod.Proofs.Registry.Configured
set_option autoImplicit false

/-!
# What missing caches are created from

A configuration may have a definition for a cache, but a registry creates every missing cache from the
default template. So a cache is created from its own definition only if that is the default template.
-/

namespace HotRod

open HotRod.Action

def Configuration.definition? (configuration : Configuration) (cache : String) : Option String :=
  configuration.caches[cache]?.bind CacheConfiguration.definition

/-- The manager of a live client was connected with a configuration that its settings describe. -/
theorem Host.Configured.of_live_client {host : Host} {client : String} {id : ManagerId}
    (configured : host.Configured) (live : host.Live client id) :
    ∃ files configuration, host.network.managers[id]? = some ⟨configuration, true⟩ ∧
      host.registry.settings.described files (canonicalName client) = .ok configuration := by
  obtain ⟨files, configuration, connected, described⟩ := configured _ id live.registered
  refine ⟨files, configuration, ?_, described⟩
  obtain ⟨⟨_, started⟩, found, rfl⟩ :=
    Option.map_eq_some_iff.mp ((List.getElem?_map ..).symm.trans connected)
  have running := live.started
  rw [Network.isStarted, found] at running
  obtain rfl : started = true := running
  exact found

/-- A live manager creates a missing cache from the default template. Whatever definition its
configuration has for that cache, the cache is in the record with it only if it is the same text. -/
theorem Site.Reachable.creates_from_default_template {site : Site} (reachable : site.Reachable)
    {place : Nat} {host : Host} {client : String} {id : ManagerId} {cache? : Option String}
    (there : site.host? place = some host) (live : host.Live client id)
    (missing : host.network.cluster.hasCache (host.network.cluster.meant cache?) = false)
    (files : Files) :
    let cache := host.network.cluster.meant cache?
    let asked := (Host.remoteCache files client cache?).run host
    asked.result = .ok ⟨id, cache⟩ ∧
    asked.state.network.cluster.created = host.network.cluster.created ++ [(cache, defaultTemplate)] ∧
    ∃ read configuration, host.network.managers[id]? = some ⟨configuration, true⟩ ∧
      host.registry.settings.described read (canonicalName client) = .ok configuration ∧
      ∀ definition, configuration.definition? cache = some definition →
        ((cache, definition) ∈ asked.state.network.cluster.created ↔ definition = defaultTemplate) := by
  intro cache asked
  have order := reachable.inOrder.host there
  have configured : host.Configured := by
    obtain ⟨registry, here, rfl⟩ := Option.map_eq_some_iff.mp there
    exact reachable.configured registry (List.mem_of_getElem? here)
  have provides : host.Provides id cache? asked := Host.provides_remoteCache order live cache?
  have created : asked.state.network.cluster.created =
      host.network.cluster.created ++ [(cache, defaultTemplate)] := by
    rw [provides.created missing]
    rfl
  have new (definition : String) : (cache, definition) ∉ host.network.cluster.created := by
    intro member
    have present := order.recorded.present cache (List.mem_map_of_mem member)
    rw [missing] at present
    contradiction
  obtain ⟨read, configuration, connected, described⟩ := configured.of_live_client live
  refine ⟨provides.given, created, read, configuration, connected, described, ?_⟩
  intro definition _
  rw [created, List.mem_append, List.mem_singleton, or_iff_right (new definition), Prod.mk.injEq,
    and_iff_right rfl]

def definingSettings (definition : String) : ClientsSettings where
  runtime := {
    clients := KeyMap.ofPairs [("c", {
      hosts := some "h:1"
      caches := KeyMap.ofPairs [("n", { definition := some definition })] })] }

def definingHost (definition : String) : Host :=
  ((Host.manager .missing "c").run { registry := { settings := definingSettings definition } }).state

theorem reachable_definingHost (definition : String) :
    Site.Reachable ⟨(definingHost definition).network, [(definingHost definition).registry]⟩ := by
  let registry : Registry := { settings := definingSettings definition }
  have opened : Site.Step {} ⟨{}, [registry]⟩ := .opening (definingSettings definition)
  have asked : Site.Step ⟨{}, [registry]⟩
      (Site.putHost 0 (definingHost definition) ⟨{}, [registry]⟩) := .registry rfl (.manager "c")
  exact .head opened (.single asked)

/-- A cache is created from its own definition if that is the default template. -/
theorem default_definition_is_created_from :
    let host := definingHost defaultTemplate
    let asked := (Host.remoteCache .missing "c" (some "n")).run host
    asked.result = .ok ⟨0, "n"⟩ ∧
    (host.network.managers.map fun manager => manager.configuration.definition? "n") =
      [some defaultTemplate] ∧
    ("n", defaultTemplate) ∈ asked.state.network.cluster.created := by
  have facts : ((definingHost defaultTemplate).registry.live["c"]? = some 0 ∧
      (definingHost defaultTemplate).network.isStarted 0 = true) ∧
      (definingHost defaultTemplate).network.cluster.hasCache "n" = false ∧
      ((definingHost defaultTemplate).network.managers.map
        fun manager => manager.configuration.definition? "n") = [some defaultTemplate] := by
    decide +kernel
  have reachable := reachable_definingHost defaultTemplate
  generalize definingHost defaultTemplate = host at facts reachable
  obtain ⟨⟨registered, started⟩, missing, defined⟩ := facts
  have live : host.Live "c" 0 := ⟨registered, started⟩
  obtain ⟨given, -, read, configuration, connected, -, recorded⟩ :=
    @Site.Reachable.creates_from_default_template _ reachable 0 host "c" 0 (some "n") rfl live missing
      .missing
  refine ⟨given, defined, (recorded defaultTemplate ?_).mpr rfl⟩
  have first := congrArg (·[0]?) defined
  rw [List.getElem?_map, connected] at first
  exact Option.some.inj first

/-- A cache with a valid definition of its own is not created from it. -/
theorem own_definition_is_not_created_from :
    let host := definingHost "<local-cache/>"
    let asked := (Host.remoteCache .missing "c" (some "n")).run host
    Site.Reachable ⟨host.network, [host.registry]⟩ ∧ host.Live "c" 0 ∧
    ((definingSettings "<local-cache/>").described .missing "c").toOption.bind (·.definition? "n") =
      some "<local-cache/>" ∧
    Cluster.isTemplate "<local-cache/>" = true ∧
    host.network.cluster.hasCache "n" = false ∧
    asked.result = .ok ⟨0, "n"⟩ ∧
    asked.state.network.cluster.created = [("n", defaultTemplate)] ∧
    ("n", "<local-cache/>") ∉ asked.state.network.cluster.created := by
  intro host asked
  have facts : (host.registry.live[canonicalName "c"]? = some 0 ∧ host.network.isStarted 0 = true) ∧
      host.network.cluster.hasCache "n" = false ∧
      asked.result.toOption = some ⟨0, "n"⟩ ∧
      asked.state.network.cluster.created = [("n", defaultTemplate)] := by
    decide +kernel
  obtain ⟨⟨registered, started⟩, missing, given, created⟩ := facts
  refine ⟨reachable_definingHost _, ⟨registered, started⟩, by decide +kernel, by decide +kernel, missing,
    eq_ok_of_toOption given, created, ?_⟩
  rw [created]
  decide

end HotRod
