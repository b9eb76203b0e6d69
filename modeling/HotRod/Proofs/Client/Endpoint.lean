import HotRod.Proofs.Client.Assembly
set_option autoImplicit false

/-!
# Servers of an assembled client

The servers of a client come from one text only: that of the URI in the effective bag, or else that of
its server list. A runtime section without a URI writes its hosts over the server list and leaves the
URI of the client's own properties where it is. So its hosts count only where there is no such URI, or
where the URI names the same servers.
-/

namespace HotRod

open HotRod.Action

/-- The servers that a bag names, by a URI or else by a server list. -/
def Properties.servers (bag : Properties) : Except ClientError (List ServerAddress) :=
  match bag[ClientKey.uri.text]?, bag[ClientKey.serverList.text]? with
  | some uri, _ => (HotRodUri.parse uri).map HotRodUri.servers
  | none, some list => parseServerList list
  | none, none => .ok []

namespace Draft

theorem base_setClient {draft changed : Draft} {value : String} {key : ClientKey}
    (set : draft.setClient value key = .ok changed) :
    changed.servers = draft.servers ∧ changed.properties = draft.properties := by
  cases key
  case marshaller =>
    rw [eq_of_setClient_marshaller set]
    exact ⟨rfl, rfl⟩
  case clientIntelligence | tracingPropagation | useAuth | useTls | connectTimeout | socketTimeout
      | maxRetries | tcpNoDelay | tcpKeepAlive =>
    obtain ⟨given, -, rfl⟩ := map_eq_ok_iff.mp set
    exact ⟨rfl, rfl⟩
  all_goals
    cases set
    exact ⟨rfl, rfl⟩

theorem base_of_applied {files : Files} {key value : String} {before after : Draft}
    (applied : Applied files key value before after) :
    after.servers = before.servers ∧ after.properties = before.properties := by
  cases applied with
  | ignored _ => exact ⟨rfl, rfl⟩
  | client _ set => exact base_setClient set
  | cache _ _ => exact ⟨rfl, rfl⟩

theorem base_applyProperties {files : Files} {pairs : List (String × String)} {before after : Draft}
    (done : (applyProperties files pairs).Completes before () after) :
    after.servers = before.servers ∧ after.properties = before.properties := by
  refine done.forEach_keeps (fun draft => draft.servers = before.servers ∧
    draft.properties = before.properties) ?_ ⟨rfl, rfl⟩
  intro pair _ draft next applied same
  obtain ⟨servers, properties⟩ := base_of_applied (applied_of_completes applied)
  exact ⟨servers.trans same.1, properties.trans same.2⟩

theorem servers_applyBag {files : Files} {bag : Properties} {start finish : Draft}
    (done : (applyBag files bag).Completes start () finish) (empty : start.servers = []) :
    bag.servers = .ok finish.servers := by
  obtain ⟨uri?, aimed, asked, applied, aims, query, properties, rfl⟩ := stages_of_applyBag done
  have same : (keepProperties bag applied).servers = aimed.servers :=
    (base_applyProperties properties).1.trans (base_applyProperties query).1
  rw [Properties.servers, same]
  cases aims with
  | uri named parsed =>
    rw [named]
    exact map_eq_ok_iff.mpr ⟨_, parsed, rfl⟩
  | list named listed parsed =>
    rw [named, listed]
    exact parsed
  | nothing named listed =>
    rw [named, listed, empty]

theorem properties_applyBag {files : Files} {bag : Properties} {start finish : Draft}
    (done : (applyBag files bag).Completes start () finish) :
    finish.properties = start.properties.extend bag.toList := by
  obtain ⟨uri?, aimed, asked, applied, aims, query, properties, rfl⟩ := stages_of_applyBag done
  have same : applied.properties = aimed.properties :=
    (base_applyProperties properties).2.trans (base_applyProperties query).2
  rw [keepProperties, same]
  cases aims <;> rfl

end Draft

namespace ClientDefinition

/-- The servers of a completed assembly are those of its effective bag. -/
theorem servers_of_assemble {files : Files} {settings : RuntimeSettings} {name : String}
    {definition finish : ClientDefinition} {assembly : Assembly}
    (done : (assemble files settings name).Completes definition assembly finish) :
    (effectiveBag definition.properties settings.clients[name]?).servers =
      .ok assembly.draft.servers := by
  obtain ⟨own, bag, registered, effective, filled, -⟩ := stages_of_assemble done
  obtain ⟨draft, applied, same⟩ := stages_of_fill filled
  have stored : ∀ key : ClientKey, bag[key.text]? =
      (effectiveBag definition.properties settings.clients[name]?)[key.text]? := by
    intro key
    rw [effective, getElem?_effectiveBag, getElem?_effectiveBag,
      getElem?_of_registerSchemas registered (Properties.schemaFile?_text key)]
  have servers := Draft.servers_applyBag applied rfl
  rw [Properties.servers, stored, stored] at servers
  rw [← Draft.servers_clientPart assembly.draft, same]
  exact servers

theorem properties_of_fill {files : Files} {settings : RuntimeSettings}
    {runtime? : Option RuntimeSection} {bag : Properties} {start finish : Draft}
    (done : (fill files settings runtime? bag).Completes start () finish) :
    finish.properties = start.properties.extend bag.toList := by
  obtain ⟨draft, applied, same⟩ := stages_of_fill done
  have kept := Draft.properties_applyBag applied
  exact (congrArg Draft.properties same).trans kept

theorem properties_of_assemble {files : Files} {settings : RuntimeSettings} {name : String}
    {definition finish : ClientDefinition} {assembly : Assembly}
    (done : (assemble files settings name).Completes definition assembly finish) :
    (registerSchemas.run definition).result.map (effectiveBag · settings.clients[name]?) =
      .ok assembly.draft.properties := by
  obtain ⟨own, bag, registered, rfl, filled, -⟩ := stages_of_assemble done
  have properties : assembly.draft.properties = KeyMap.extend ∅ _ := properties_of_fill filled
  rw [registered.1, properties, KeyMap.extend_toList]
  rfl

/-- The files of an assembly are those of its initializers and of its bag. -/
theorem schemaFiles_of_assemble {files : Files} {settings : RuntimeSettings} {name : String}
    {definition finish : ClientDefinition} {assembly : Assembly}
    (done : (assemble files settings name).Completes definition assembly finish) :
    assembly.schemaFiles = definition.schemas.filesToPush assembly.draft.properties := by
  have properties := properties_of_assemble done
  obtain ⟨own, bag, registered, rfl, -, pushed⟩ := stages_of_assemble done
  rw [registered.1] at properties
  rw [pushed, ← Except.ok.inj properties]

/-- Hosts of a section without a URI are the servers exactly when no URI of the client's own
properties names others; such a URI decides alone. -/
theorem section_hosts_iff {files : Files} {settings : RuntimeSettings} {name : String}
    {definition : ClientDefinition} {assembly : Assembly} {runtime : RuntimeSection} {hosts : String}
    (listed : settings.clients[name]? = some runtime) (withoutUri : runtime.uri = none)
    (named : runtime.hosts.or runtime.serverList = some hosts)
    (assembled : ((assemble files settings name).run definition).result = .ok assembly) :
    (∀ text, definition.properties[ClientKey.uri.text]? = some text →
      (HotRodUri.parse text).map HotRodUri.servers = .ok assembly.draft.servers) ∧
    (parseServerList hosts = .ok assembly.draft.servers ↔
      ∀ text, definition.properties[ClientKey.uri.text]? = some text →
        (HotRodUri.parse text).map HotRodUri.servers = parseServerList hosts) := by
  have servers := servers_of_assemble (completes_of_result assembled)
  have written : runtime.property? .serverList = some hosts := by
    simp [RuntimeSection.property?, withoutUri, named]
  rw [listed, Properties.servers, getElem?_effectiveBag, getElem?_effectiveBag, Option.bind_some,
    Option.bind_some, written, RuntimeSection.property?, withoutUri, Option.none_or,
    Option.some_or] at servers
  cases own : definition.properties[ClientKey.uri.text]? with
  | none =>
    rw [own] at servers
    exact ⟨by simp, by simpa using servers⟩
  | some text =>
    rw [own] at servers
    constructor
    · rintro _ ⟨⟩
      exact servers
    · constructor
      · rintro same _ ⟨⟩
        exact servers.trans same.symm
      · intro same
        exact (same text rfl).symm.trans servers

end ClientDefinition

def hostsSettings : RuntimeSettings where
  clients := KeyMap.ofPairs [("c", { hosts := some "runtime:2" })]

def listDefinition : ClientDefinition where
  properties := KeyMap.ofPairs [(ClientKey.serverList.text, "own:1")]

def uriDefinition : ClientDefinition where
  properties := KeyMap.ofPairs [(ClientKey.uri.text, "hotrod://own:1")]

/-- Hosts of a section override a server list. -/
theorem hosts_override_server_list :
    ∃ assembly,
      ((ClientDefinition.assemble .missing hostsSettings "c").run listDefinition).result =
        .ok assembly ∧ assembly.draft.servers = [⟨"runtime", 2⟩] := by
  obtain ⟨assembly, assembled⟩ := exists_ok_of_toBool (by decide +kernel :
    ((ClientDefinition.assemble .missing hostsSettings "c").run listDefinition).result.toBool = true)
  have listed : hostsSettings.clients["c"]? = some { hosts := some "runtime:2" } := by decide +kernel
  have plain : listDefinition.properties[ClientKey.uri.text]? = none := by decide +kernel
  have same := (ClientDefinition.section_hosts_iff listed rfl rfl assembled).2.mpr (by simp [plain])
  have read : parseServerList "runtime:2" = .ok [⟨"runtime", 2⟩] :=
    eq_ok_of_toOption (by decide +kernel)
  exact ⟨assembly, assembled, Except.ok.inj (same.symm.trans read)⟩

/-- Hosts of a section do not override a URI. -/
theorem hosts_yield_to_uri :
    ∃ assembly,
      ((ClientDefinition.assemble .missing hostsSettings "c").run uriDefinition).result =
        .ok assembly ∧
      hostsSettings.clients["c"]? = some { hosts := some "runtime:2" } ∧
      parseServerList "runtime:2" ≠ .ok assembly.draft.servers := by
  obtain ⟨assembly, assembled⟩ := exists_ok_of_toBool (by decide +kernel :
    ((ClientDefinition.assemble .missing hostsSettings "c").run uriDefinition).result.toBool = true)
  have servers : ((ClientDefinition.assemble .missing hostsSettings "c").run
      uriDefinition).result.toOption.map (·.draft.servers) = some [⟨"own", 1⟩] := by decide +kernel
  rw [assembled] at servers
  have read : parseServerList "runtime:2" = .ok [⟨"runtime", 2⟩] :=
    eq_ok_of_toOption (by decide +kernel)
  have own : assembly.draft.servers = [⟨"own", 1⟩] := Option.some.inj servers
  refine ⟨assembly, assembled, by decide +kernel, ?_⟩
  rw [read, own]
  simp

end HotRod
