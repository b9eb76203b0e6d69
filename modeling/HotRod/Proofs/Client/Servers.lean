import HotRod.Proofs.Client.Endpoint
import HotRod.Proofs.Configuration.Build
import HotRod.Proofs.Server.List
set_option autoImplicit false

/-!
# Servers of a configuration, written and read back

Whichever text the servers of a client came from, they have gone through one of the two readers, so that
the list a configuration shows can be given to another client, as a server list or in a URI.
-/

namespace HotRod

theorem Properties.wellFormed_of_servers {bag : Properties} {servers : List ServerAddress}
    (named : bag.servers = .ok servers) : ∀ address ∈ servers, address.WellFormed := by
  unfold Properties.servers at named
  cases uri : bag[ClientKey.uri.text]? with
  | some text =>
    rw [uri] at named
    obtain ⟨endpoint, parsed, rfl⟩ := map_eq_ok_iff.mp named
    exact (HotRodUri.writable_of_parse parsed).formed
  | none =>
    cases list : bag[ClientKey.serverList.text]? with
    | some list' =>
      rw [uri, list] at named
      exact wellFormed_of_parseServerList named
    | none =>
      rw [uri, list] at named
      cases named
      exact nofun

namespace ClientDefinition

/-- The servers of a configuration are read back from its server list, and from a URI that names them. -/
theorem built_servers_read_back {files : Files} {settings : RuntimeSettings} {name : String}
    {definition : ClientDefinition} {assembly : Assembly} {configuration : Configuration}
    (assembled : ((assemble files settings name).run definition).result = .ok assembly)
    (built : assembly.draft.build = .ok configuration) :
    parseServerList configuration.serverList = .ok configuration.servers ∧
    (configuration.servers ≠ [] →
      (HotRodUri.parse ("hotrod://" ++
        String.intercalate "," (configuration.servers.map ServerAddress.text))).map
          HotRodUri.servers = .ok configuration.servers) := by
  have named := servers_of_assemble (Action.completes_of_result assembled)
  rw [← Draft.servers_of_build built] at named
  have formed := Properties.wellFormed_of_servers named
  refine ⟨parseServerList_serverListText formed, fun nonempty => ?_⟩
  rw [HotRodUri.parse_intercalate nonempty formed]
  rfl

end ClientDefinition

def bracketedSettings : RuntimeSettings where
  clients := KeyMap.ofPairs [("c", { hosts := some "[::1]:011;b" })]

/-- Brackets come back, zeros in front of a number do not. -/
theorem bracketed_servers_read_back :
    ∃ assembly configuration,
      ((ClientDefinition.assemble .missing bracketedSettings "c").run {}).result = .ok assembly ∧
      assembly.draft.build = .ok configuration ∧
      configuration.serverList = "[::1]:11;b:11222" ∧
      parseServerList configuration.serverList = .ok configuration.servers ∧
      (HotRodUri.parse ("hotrod://" ++
        String.intercalate "," (configuration.servers.map ServerAddress.text))).map
          HotRodUri.servers = .ok configuration.servers := by
  have filled : (((ClientDefinition.assemble .missing bracketedSettings "c").run
      {}).result.toOption.bind fun assembly => assembly.draft.build.toOption).map
        (·.servers) = some [⟨"::1", 11⟩, ⟨"b", 11222⟩] := by decide +kernel
  obtain ⟨configuration, given, servers⟩ := Option.map_eq_some_iff.mp filled
  obtain ⟨assembly, assembled, built⟩ := Option.bind_eq_some_iff.mp given
  obtain ⟨list, uri⟩ := ClientDefinition.built_servers_read_back
    (eq_ok_of_toOption assembled) (eq_ok_of_toOption built)
  refine ⟨assembly, configuration, eq_ok_of_toOption assembled, eq_ok_of_toOption built, ?_, list, uri ?_⟩
  · rw [Configuration.serverList, servers]
    decide +kernel
  · rw [servers]
    exact List.cons_ne_nil _ _

end HotRod
