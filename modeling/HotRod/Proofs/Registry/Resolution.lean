import HotRod.Proofs.Network.Schemas
import HotRod.Proofs.Registry.Safety
import HotRod.Proofs.Registry.Site
set_option autoImplicit false

/-!
# Which cache is meant

A cache is asked for by name, or as the default cache: the one that is designated, or else the one with
the empty name. In a site that comes about the designated cache is there, so a cache that is missing
has the name that it is created under.
-/

namespace HotRod

open HotRod.Action

namespace Cluster

/-- The name of the cache that is meant by an optional name. -/
def meant (cluster : Cluster) : Option String → String
  | some name => if name.isEmpty then cluster.designated.getD "" else name
  | none => cluster.designated.getD ""

def added (name template : String) (cluster : Cluster) : Cluster :=
  { cluster with
    caches := cluster.caches.insert name {}
    created := cluster.created ++ [(name, template)] }

theorem meant_eq (cluster : Cluster) (cache? : Option String) :
    cluster.meant cache? = (cache?.filter (!·.isEmpty)).getD cluster.defaultName := by
  rcases cache? with _ | name
  · rfl
  · by_cases empty : name.isEmpty = true <;>
      simp [meant, Option.filter, empty, defaultName, defaultCache]

theorem Recorded.meant_of_missing {cluster : Cluster} (recorded : cluster.Recorded)
    {cache? : Option String} (missing : ¬ cluster.hasCache (cluster.meant cache?) = true) :
    (cache?.filter (!·.isEmpty)).getD HotRod.defaultCache = cluster.meant cache? := by
  rw [meant_eq] at missing ⊢
  cases wanted : cache?.filter (!·.isEmpty) with
  | some name => rfl
  | none =>
    rw [wanted, Option.getD_none, defaultName] at missing
    rw [Option.getD_none, Option.getD_none, defaultName]
    cases chosen : cluster.designated with
    | none => rfl
    | some name =>
      rw [chosen] at missing
      exact absurd (recorded.designated name chosen) missing

theorem run_create {name template : String} {cluster : Cluster} (valid : isTemplate template = true)
    (missing : ¬ cluster.hasCache name = true) :
    ((create name template).run cluster).state = cluster.added name template ∧
      ((create name template).run cluster).result = .ok () := by
  unfold create
  rw [if_pos valid, run_bind_of_ok (run_get cluster), if_neg missing]
  exact ⟨rfl, rfl⟩

end Cluster

namespace Host
variable {files : Files} {host : Host} {client : String} {id : ManagerId}

/-- The manager of a client is registered and started. -/
structure Live (client : String) (id : ManagerId) (host : Host) : Prop where
  registered : host.registry.live[canonicalName client]? = some id
  started : host.network.isStarted id = true

theorem InOrder.isClosed (order : host.InOrder) (live : host.Live client id) :
    host.registry.isClosed = false := by
  rw [← Bool.not_eq_true]
  intro closed
  have found := live.registered
  rw [order.settled closed, Std.ExtTreeMap.getElem?_empty] at found
  contradiction

theorem run_manager_of_live (order : host.InOrder) (live : host.Live client id) :
    (managerVia connect files (canonicalName client)).run host = ⟨host, [], .ok (some id)⟩ := by
  have found := live.registered
  unfold managerVia
  rw [run_bind_of_ok (run_ensureOpen (order.isClosed live)), run_bind_of_ok (run_get host),
    canonicalName_canonicalName, found]
  rfl

theorem run_lookUpCache (started : host.network.isStarted id = true) (wanted? : Option String) :
    (lookUpCache id wanted?).run host.network =
      ⟨host.network, [], .ok
        (if host.network.cluster.hasCache (wanted?.getD host.network.cluster.defaultName) then
          some ⟨id, wanted?.getD host.network.cluster.defaultName⟩ else none)⟩ := by
  cases wanted? with
  | some name => exact Network.run_cache started name
  | none =>
    rw [lookUpCache, Network.defaultCache, Network.run_through started]
    rfl

theorem run_lookUp_meant (started : host.network.isStarted id = true) (cache? : Option String) :
    ((onNetwork (lookUpCache id (cache?.filter (!·.isEmpty)))).mapError ClientError.remote).run host =
      ⟨host, [], .ok (if host.network.cluster.hasCache (host.network.cluster.meant cache?) then
        some ⟨id, host.network.cluster.meant cache?⟩ else none)⟩ := by
  rw [run_mapError, onNetwork, run_onPart, run_lookUpCache started, ← Cluster.meant_eq]
  rfl

theorem run_remoteCache_of_found (order : host.InOrder) (live : host.Live client id)
    {cache? : Option String}
    (present : host.network.cluster.hasCache (host.network.cluster.meant cache?) = true) :
    (remoteCache files client cache?).run host =
      ⟨host, [], .ok ⟨id, host.network.cluster.meant cache?⟩⟩ := by
  have looked := run_lookUp_meant live.started cache?
  rw [if_pos present] at looked
  unfold remoteCache remoteCacheVia
  rw [run_bind_of_ok (run_manager_of_live order live), run_bind_of_ok looked]
  rfl

theorem same_remoteCache_of_missing (order : host.InOrder) (live : host.Live client id)
    {cache? : Option String}
    (missing : ¬ host.network.cluster.hasCache (host.network.cluster.meant cache?) = true) :
    ((remoteCache files client cache?).run host).Same
      ⟨host.setNetwork (host.network.setCluster
        (host.network.cluster.added (host.network.cluster.meant cache?) defaultTemplate)), [],
        .ok ⟨id, host.network.cluster.meant cache?⟩⟩ := by
  have looked := run_lookUp_meant live.started cache?
  rw [if_neg missing] at looked
  have valid : Cluster.isTemplate defaultTemplate = true := by decide +kernel
  obtain ⟨left, done⟩ := Cluster.run_create valid missing
  have through := Network.run_through live.started
    (Cluster.create (host.network.cluster.meant cache?) defaultTemplate)
  rw [left, done] at through
  have made : ((Network.getOrCreate id (host.network.cluster.meant cache?) defaultTemplate).run
      host.network).Same ⟨host.network.setCluster
        (host.network.cluster.added (host.network.cluster.meant cache?) defaultTemplate), [],
        .ok ⟨id, host.network.cluster.meant cache?⟩⟩ := by
    rw [Network.getOrCreate, run_bind_of_ok through]
    exact ⟨rfl, rfl⟩
  unfold remoteCache remoteCacheVia
  rw [run_bind_of_ok (run_manager_of_live order live), run_bind_of_ok looked,
    Cluster.Recorded.meant_of_missing order.recorded missing]
  refine (same_bind_of_ok rfl).trans ⟨?_, ?_⟩
  · exact congrArg host.setNetwork made.1
  · exact congrArg (Except.mapError ClientError.remote) made.2

/-- What was given for a cache, and what it took: the handle is on the cache that is meant, no cache that
was there is touched, nor is the designation, and a missing cache is added and recorded. -/
structure Provides (host : Host) (id : ManagerId) (cache? : Option String)
    (outcome : Outcome Host ClientError CacheHandle) : Prop where
  given : outcome.result = .ok ⟨id, host.network.cluster.meant cache?⟩
  kept : ∀ name, host.network.cluster.hasCache name = true →
    outcome.state.network.cluster.caches[name]? = host.network.cluster.caches[name]?
  designated : outcome.state.network.cluster.designated = host.network.cluster.designated
  found : host.network.cluster.hasCache (host.network.cluster.meant cache?) = true →
    outcome.state = host
  created : host.network.cluster.hasCache (host.network.cluster.meant cache?) = false →
    outcome.state = host.setNetwork (host.network.setCluster
      (host.network.cluster.added (host.network.cluster.meant cache?) defaultTemplate))

/-- A live manager provides the cache that is meant. -/
theorem provides_remoteCache (order : host.InOrder) (live : host.Live client id)
    (cache? : Option String) : host.Provides id cache? ((remoteCache files client cache?).run host) := by
  by_cases present : host.network.cluster.hasCache (host.network.cluster.meant cache?) = true
  · rw [run_remoteCache_of_found order live present]
    exact ⟨rfl, fun _ _ => rfl, rfl, fun _ => rfl, fun missing => by simp [present] at missing⟩
  · obtain ⟨left, given⟩ := @same_remoteCache_of_missing files host client id order live cache? present
    refine ⟨given, fun name there => ?_, ?_, fun found => absurd found present, fun _ => left⟩
    · rw [left]
      have apart : host.network.cluster.meant cache? ≠ name := by
        rintro rfl
        exact present there
      exact (KeyMap.getElem?_insert _ _ _ _).trans (if_neg apart)
    · rw [left]
      rfl

end Host

/-- In a site that comes about, every cache in the record is there, is in it once and is not the one for
schema files, which is there as well. Asked by a client with a live manager, a registry gives a handle
on the cache that is meant, where an empty name means what no name does; it creates a cache only if that
one is missing, and then it adds the cache to the record and changes nothing else. -/
theorem Site.Reachable.provides {site : Site} (reachable : site.Reachable) :
    ((∀ name ∈ site.network.cluster.created.map Prod.fst, site.network.cluster.hasCache name = true) ∧
      (site.network.cluster.created.map Prod.fst).Nodup ∧
      site.network.cluster.hasCache metadataCache = true ∧
      metadataCache ∉ site.network.cluster.created.map Prod.fst) ∧
    (∀ (files : Files) (client : String),
      Host.remoteCache files client none = Host.remoteCache files client (some "")) ∧
    ∀ (place : Nat) (host : Host) (files : Files) (client : String) (id : ManagerId)
      (cache? : Option String), site.host? place = some host → host.Live client id →
        host.Provides id cache? ((Host.remoteCache files client cache?).run host) := by
  obtain ⟨recorded, settled⟩ := reachable.inOrder
  refine ⟨⟨recorded.present, recorded.distinct, recorded.metadata, recorded.apart⟩, ?_, ?_⟩
  · intro files client
    rfl
  · intro place host files client id cache? there live
    exact Host.provides_remoteCache (reachable.inOrder.host there) live cache?

def namedDefaultHost : Host where
  network := { cluster := Cluster.defineDefault "main" {} }
  registry := { settings := Interleaving.servedSettings }

theorem reachable_of_manager {host : Host}
    (looked : ((Host.manager .missing "c").run namedDefaultHost).state = host) :
    Site.Reachable ⟨host.network, [host.registry]⟩ := by
  have defined : Site.Step {} ⟨namedDefaultHost.network, []⟩ := .network (.defineDefault "main")
  have opened : Site.Step ⟨namedDefaultHost.network, []⟩
      ⟨namedDefaultHost.network, [namedDefaultHost.registry]⟩ := .opening Interleaving.servedSettings
  have asked : Site.Step ⟨namedDefaultHost.network, [namedDefaultHost.registry]⟩
      (Site.putHost 0 ((Host.manager .missing "c").run namedDefaultHost).state
        ⟨namedDefaultHost.network, [namedDefaultHost.registry]⟩) :=
    .registry rfl (.manager "c")
  rw [looked] at asked
  exact .head defined (.head opened (.single asked))

/-- The designated cache is found, and one with a name of its own is created. -/
theorem served_site_provides :
    ∃ (site : Site) (host : Host), site.Reachable ∧ site.host? 0 = some host ∧ host.Live "c" 0 ∧
      ((Host.remoteCache .missing "c" none).run host).result = .ok ⟨0, "main"⟩ ∧
      ((Host.remoteCache .missing "c" none).run host).state = host ∧
      ((Host.remoteCache .missing "c" (some "books")).run host).result = .ok ⟨0, "books"⟩ ∧
      ((Host.remoteCache .missing "c" (some "books")).run host).state.network.cluster.created =
        [("books", defaultTemplate)] := by
  let left : Host := ((Host.manager .missing "c").run namedDefaultHost).state
  have facts : (left.registry.live["c"]? = some 0 ∧ left.network.isStarted 0 = true) ∧
      left.network.cluster.hasCache "main" = true ∧
      left.network.cluster.hasCache "books" = false ∧ left.network.cluster.created = [] ∧
      left.network.cluster.designated = some "main" := by
    decide +kernel
  generalize looked : left = host at facts
  obtain ⟨⟨registered, started⟩, main, books, created, designated⟩ := facts
  have reachable := reachable_of_manager looked
  have live : host.Live "c" 0 := ⟨registered, started⟩
  have named : host.network.cluster.meant none = "main" := by
    rw [Cluster.meant, designated]
    rfl
  obtain ⟨-, -, provides⟩ := reachable.provides
  have unnamed := provides 0 host .missing "c" 0 none rfl live
  have asked := provides 0 host .missing "c" 0 (some "books") rfl live
  refine ⟨_, host, reachable, rfl, live, ?_, ?_, ?_, ?_⟩
  · rw [unnamed.given, named]
  · exact unnamed.found (named ▸ main)
  · exact asked.given
  · rw [asked.created books]
    exact congrArg (· ++ _) created

end HotRod
