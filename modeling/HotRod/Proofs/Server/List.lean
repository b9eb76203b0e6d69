import HotRod.Proofs.Server.Uri
set_option autoImplicit false

/-!
# Server lists read back

Addresses that were read hold no separator of a list when they are written, neither in their hosts nor
around them. So a list of them is cut again where it was put together, by the reader of server lists and
by that of URIs alike.
-/

namespace HotRod

theorem wellFormed_of_parseServerList {list : String} {servers : List ServerAddress}
    (parsed : parseServerList list = .ok servers) : ∀ address ∈ servers, address.WellFormed := by
  intro address member
  obtain ⟨entry, read⟩ := HotRodUri.exists_of_mapM_eq_ok parsed address member
  exact ServerAddress.wellFormed_of_parse read

theorem ServerAddress.WellFormed.isListSeparator_of_mem_text {address : ServerAddress}
    (formed : address.WellFormed) {c : Char} (member : c ∈ address.text.toList) :
    isListSeparator c = false := by
  rw [isListSeparator, Bool.or_eq_false_iff, beq_eq_false_iff_ne, beq_eq_false_iff_ne]
  constructor
  all_goals
    rintro rfl
    rcases formed.mem_text member with plain | colon | opening | closing
    all_goals contradiction

section
variable {servers : List ServerAddress}

theorem splitOnP_serverListText (nonempty : servers ≠ [])
    (formed : ∀ address ∈ servers, address.WellFormed) :
    (serverListText servers).toList.splitOnP isListSeparator =
      servers.map fun address => address.text.toList := by
  have whole : ∀ entry ∈ servers.map (fun address => address.text.toList),
      ∀ c ∈ entry, isListSeparator c = false := by
    intro entry member c inside
    obtain ⟨address, present, rfl⟩ := List.mem_map.mp member
    exact (formed address present).isListSeparator_of_mem_text inside
  rw [serverListText, String.toList_intercalate, List.map_map]
  exact Text.splitOnP_intercalate (by decide) (by simpa using nonempty) whole

theorem parseServerList_serverListText (formed : ∀ address ∈ servers, address.WellFormed) :
    parseServerList (serverListText servers) = .ok servers := by
  by_cases empty : servers = []
  · subst empty
    rfl
  · rw [parseServerList, splitOnP_serverListText empty formed, ServerAddress.filter_texts formed]
    refine HotRodUri.mapM_map_ok fun address present => ?_
    rw [ServerAddress.parse, (formed address present).read?_text]

/-- The written addresses after a scheme are a URI that names these servers and nothing else. -/
theorem HotRodUri.parse_intercalate (nonempty : servers ≠ [])
    (formed : ∀ address ∈ servers, address.WellFormed) :
    parse ("hotrod://" ++ String.intercalate "," (servers.map ServerAddress.text)) =
      .ok { tls := false, servers, username := none, password := none, properties := [] } := by
  let uri : HotRodUri := { tls := false, servers, username := none, password := none, properties := [] }
  have writable : uri.Writable := by
    refine ⟨nonempty, fun address member => ?_, nofun, nofun⟩
    exact ServerAddress.readable_of_read? (formed address member).read?_text
  have written : ("hotrod://" ++ String.intercalate "," (servers.map ServerAddress.text)).toList =
      (uri.text true).toList := by
    rw [text, String.toList_append, String.toList_intercalate, List.map_map, String.toList_ofList]
    simp [uri, schemeText, userInfoText, queryText, hostsText, Function.comp_def]
  rw [parse, written, writable.read_text]
  rfl

end

end HotRod
