import HotRod.Proofs.Server.Uri
set_option autoImplicit false

/-!
# Hosts of a URI and server lists

The hosts of a URI are cut at commas only and lose the blanks at their end with the whole URI. Neither
makes a difference to a list without semicolons: blanks at the end belong to its last piece, and every
piece is trimmed before it is read.
-/

namespace HotRod

theorem ListSpelled.of_map_trim_eq {pieces others : List (List Char)} {servers : List ServerAddress}
    (listed : ListSpelled pieces servers) (same : pieces.map Text.trim = others.map Text.trim) :
    ListSpelled others servers := by
  induction listed generalizing others with
  | nil =>
    rw [List.map_nil, eq_comm, List.map_eq_nil_iff] at same
    rw [same]
    exact .nil
  | blank empty listed ih =>
    obtain ⟨piece, pieces, rfl, first, rest⟩ := List.map_eq_cons_iff.mp same.symm
    refine .blank ?_ (ih rest.symm)
    rwa [← Text.trim_eq_nil_iff, first, Text.trim_eq_nil_iff]
  | address trimmed spelled listed ih =>
    obtain ⟨piece, pieces, rfl, first, rest⟩ := List.map_eq_cons_iff.mp same.symm
    refine .address ?_ spelled (ih rest.symm)
    rwa [← Text.trim_eq_iff, first, Text.trim_eq_iff]

/-- Without semicolons, cutting at commas gives the pieces of a list, and blanks at its end do not count. -/
theorem listSpelled_splitOn_trimEnd {list : List Char} (uncut : ';' ∉ list)
    {servers : List ServerAddress} :
    ListSpelled ((Text.trimEnd list).splitOn ',') servers ↔
      ListSpelled (list.splitOnP isListSeparator) servers := by
  have solid (c : Char) (cuts : isListSeparator c = true) : Text.isBlank c = false := by
    rw [isListSeparator, Bool.or_eq_true, beq_iff_eq, beq_iff_eq] at cuts
    rcases cuts with rfl | rfl <;> decide
  obtain ⟨pieces, parted, same⟩ := (Text.pieces_splitOnP list).trimEnd solid
  have commas : Text.Pieces (· == ',') (Text.trimEnd list) pieces := by
    apply parted.congr
    intro c member
    have other : (c == ';') = false := by
      rw [beq_eq_false_iff_ne]
      rintro rfl
      exact uncut (Text.mem_of_mem_rdropWhile member)
    rw [isListSeparator, other, Bool.false_or]
  rw [List.splitOn_eq_splitOnP, commas.splitOnP_eq]
  constructor
  · exact fun listed => listed.of_map_trim_eq same
  · exact fun listed => listed.of_map_trim_eq same.symm

namespace HotRodUri

theorem readServers_eq_ok_iff {hosts : List Char} {servers : List ServerAddress} :
    readServers hosts = .ok servers ↔ ListSpelled (hosts.splitOn ',') servers ∧ servers ≠ [] := by
  have reads (entry : List Char) (address : ServerAddress) :
      (ServerAddress.read? entry).elim (Except.error UriFault.serverAddress) .ok = .ok address ↔
        ServerAddress.Spelled (Text.trim entry) address := by
    rw [← ServerAddress.read?_eq_some_iff]
    cases ServerAddress.read? entry <;> simp
  rw [← mapM_filledPieces_eq_ok_iff reads]
  constructor
  · intro done
    obtain ⟨found, each, rest⟩ := bind_eq_ok_iff.mp done
    by_cases empty : found.isEmpty = true
    · rw [if_pos empty] at rest
      contradiction
    · rw [if_neg empty] at rest
      cases rest
      exact ⟨each, by simpa using empty⟩
  · rintro ⟨each, nonempty⟩
    refine bind_eq_ok_iff.mpr ⟨servers, each, ?_⟩
    rw [if_neg (by simpa using nonempty)]
    rfl

def ofServers (servers : List ServerAddress) : HotRodUri :=
  { tls := false, servers, username := none, password := none, properties := [] }

/-- Without a user info, a path and a query, what follows the scheme is hosts. -/
theorem read_hosts {hosts : List Char} (user : '@' ∉ hosts) (path : '/' ∉ hosts) (query : '?' ∉ hosts) :
    read ("hotrod://".toList ++ hosts) = (readServers (Text.trimEnd hosts)).map ofServers := by
  have absent {c : Char} (missing : c ∉ hosts) : c ∉ Text.trimEnd hosts :=
    mt Text.mem_of_mem_rdropWhile missing
  have trimmed : Text.trim ("hotrod://".toList ++ hosts) =
      schemeText false ++ "://".toList ++ Text.trimEnd hosts := by
    have parted : "hotrod://".toList ++ hosts = "hotrod:/".toList ++ '/' :: hosts := rfl
    rw [parted, Text.trim, Text.trimStart_append_cons (by decide),
      Text.trimEnd_append_cons (by decide)]
    rfl
  obtain ⟨cut, scheme⟩ := read_schemeText false (Text.trimEnd hosts)
  have uncut := Text.splitFirst?_eq_none (absent query)
  have slashes := dropSlashes_of_not_mem (absent path)
  have info : splitUserInfo (Text.trimEnd hosts) = (none, Text.trimEnd hosts) := by
    rw [splitUserInfo, Text.splitLast?_eq_none (absent user)]
  unfold read
  rw [trimmed]
  simp only [cut, scheme, uncut, slashes, info, Option.elim_some, bind, Except.bind]
  cases readServers (Text.trimEnd hosts) <;> rfl

/-- Hosts without the marks that end them are read as a server list is, if they name a server at all. -/
theorem hosts_read_as_list {hosts : String} (plain : ∀ c ∈ [';', '?', '@', '/'], c ∉ hosts.toList)
    (uri : HotRodUri) :
    parse ("hotrod://" ++ hosts) = .ok uri ↔
      ∃ servers, parseServerList hosts = .ok servers ∧ servers ≠ [] ∧ uri = ofServers servers := by
  have absent (c : Char) (mark : c ∈ [';', '?', '@', '/']) : c ∉ hosts.toList := plain c mark
  have read : parse ("hotrod://" ++ hosts) = .ok uri ↔
      ∃ servers, readServers (Text.trimEnd hosts.toList) = .ok servers ∧ ofServers servers = uri := by
    rw [parse, mapError_eq_ok_iff, String.toList_append,
      read_hosts (absent '@' (by decide)) (absent '/' (by decide)) (absent '?' (by decide)),
      map_eq_ok_iff]
  rw [read]
  refine exists_congr fun servers => ?_
  rw [readServers_eq_ok_iff, listSpelled_splitOn_trimEnd (absent ';' (by decide)),
    parseServerList_eq_ok_iff, and_assoc, eq_comm]

/-- Blank pieces and blanks of any kind are skipped on both sides. -/
theorem spaced_hosts_read_as_list :
    (∀ c ∈ [';', '?', '@', '/'], c ∉ "\u3000[::1]:011,\t,b \u2003".toList) ∧
      parse ("hotrod://" ++ "\u3000[::1]:011,\t,b \u2003") = .ok (ofServers [⟨"::1", 11⟩, ⟨"b", 11222⟩]) := by
  have plain : ∀ c ∈ [';', '?', '@', '/'], c ∉ "\u3000[::1]:011,\t,b \u2003".toList := by simp
  refine ⟨plain, (hosts_read_as_list plain _).mpr ⟨[⟨"::1", 11⟩, ⟨"b", 11222⟩], ?_, by simp, rfl⟩⟩
  decide +kernel

end HotRodUri

end HotRod
