import HotRod.Proofs.Registry.Footprint
set_option autoImplicit false

/-!
# Shared counters

The counters of a site are one table for all who ask, and only requests to counters change it. A counter
stays within its bounds and keeps the definition that created it until it is removed. Managers have no
part in it: a handle on counters works as before when its manager was stopped.
-/

namespace HotRod

open HotRod.Action

def Deed.Counts : Deed → Prop
  | .counted _ _ _ => True
  | _ => False

def Deed.settles (name : String) (standing : Option CounterDefinition) :
    Deed → Option CounterDefinition
  | .counted _ request answer => request.settles name standing answer
  | _ => standing

/-- The definition that created a counter and was not removed since, told from deeds and answers. -/
def standing? (name : String) (deeds : List Deed) : Option CounterDefinition :=
  deeds.foldl (fun standing deed => deed.settles name standing) none

theorem standing?_concat (name : String) (deeds : List Deed) (deed : Deed) :
    standing? name (deeds ++ [deed]) = deed.settles name (standing? name deeds) := by
  rw [standing?, List.foldl_append]
  rfl

namespace Counters

/-- A table of counters through the deeds of a site: requests to counters are answered from it. -/
inductive Does : Counters → Deed → Counters → Prop
  | count {counters : Counters} {α : Type} (handle : CounterHandle) (request : CounterRequest α) :
      Does counters (.counted handle request (request.action.run counters).result)
        (request.action.run counters).state
  | rest {counters : Counters} {deed : Deed} : ¬ deed.Counts → Does counters deed counters

abbrev Run (deeds : List Deed) (counters : Counters) : Prop := HotRod.Run Does ∅ deeds counters

variable {counters : Counters} {deeds : List Deed}

structure Stands (deeds : List Deed) (counters : Counters) : Prop where
  sound : ∀ (name : String) (counter : Counter), counters[name]? = some counter → counter.Sound
  settled : ∀ name : String, counters[name]?.map Counter.definition = standing? name deeds
  answers : ∀ {α : Type} (handle : CounterHandle) (request : CounterRequest α)
    (answer : Except RemoteError α), .counted handle request answer ∈ deeds →
    ∀ error, answer = .error error → error.OfCounter

namespace Stands

theorem start : Stands [] ∅ where
  sound name counter there := by
    rw [Std.ExtTreeMap.getElem?_empty] at there
    contradiction
  settled name := by
    rw [Std.ExtTreeMap.getElem?_empty]
    rfl
  answers _ _ _ member := absurd member List.not_mem_nil

theorem does {deed : Deed} {left : Counters} (stands : Stands deeds counters)
    (does : Does counters deed left) : Stands (deeds ++ [deed]) left := by
  cases does with
  | count handle request =>
    have leaves := request.leaves counters
    constructor
    · exact leaves.sound stands.sound
    · intro name
      rw [standing?_concat, ← stands.settled name]
      exact leaves.definition_eq name
    · intro α handle' request' answer member
      rcases List.mem_append.mp member with earlier | now
      · exact stands.answers handle' request' answer earlier
      · cases List.mem_singleton.mp now
        intro error refused
        exact leaves.ofCounter refused
  | rest other =>
    constructor
    · exact stands.sound
    · intro name
      rw [standing?_concat, stands.settled name]
      cases deed with
      | counted => exact absurd trivial other
      | _ => rfl
    · intro α handle request answer member
      rcases List.mem_append.mp member with earlier | now
      · exact stands.answers handle request answer earlier
      · rw [← List.mem_singleton.mp now] at other
        exact absurd trivial other

end Stands

theorem Run.stands (run : Run deeds counters) : Stands deeds counters := by
  induction run with
  | start => exact .start
  | deed _ does ih => exact ih.does does

end Counters

namespace CacheRequest

theorem keeps_counters_on {α : Type} (request : CacheRequest α) (cache : String) :
    (request.on cache).Keeps Cluster.counters := by
  intro cluster
  cases asks : request.change? with
  | none => rw [run_on_of_reads asks]
  | some change =>
    rw [run_on_of_writes asks]
    cases cluster.isReadOnly cache <;> rfl

theorem keeps_counters_through {α : Type} (request : CacheRequest α) (handle : CacheHandle) :
    (request.through handle).Keeps (·.cluster.counters) := by
  intro network
  rw [through_eq]
  cases started : network.isStarted handle.manager with
  | false => rw [Network.run_through_of_stopped started]
  | true =>
    rw [Network.run_through started]
    exact request.keeps_counters_on handle.cache network.cluster

end CacheRequest

namespace Site
variable {site after : Site} {deed : Deed} {deeds : List Deed}

/-- Only requests to counters are seen on the counters. -/
theorem Does.does_counters (does : Does site deed after) (order : site.InOrder) :
    Counters.Does site.network.cluster.counters deed after.network.cluster.counters := by
  have kept {counters : Counters} (same : counters = site.network.cluster.counters)
      (other : ¬ deed.Counts) : Counters.Does site.network.cluster.counters deed counters := by
    rw [same]
    exact .rest other
  cases does with
  | ask handle request => exact kept (request.keeps_counters_through handle site.network) nofun
  | serve cache request => exact kept (request.keeps_counters_on cache site.network.cluster) nofun
  | count handle request => exact .count handle request
  | close cache => exact kept rfl nofun
  | connect configuration =>
    apply kept ?_ nofun
    rcases site.network.connect_cases configuration with ⟨-, -, left⟩ | ⟨-, left⟩
    · exact congrArg (·.cluster.counters) left
    · exact congrArg (·.cluster.counters) left
  | stop => exact kept (congrArg Cluster.counters (Network.cluster_stop _ _)) nofun
  | push id files =>
    apply kept ?_ nofun
    rcases site.network.pushSchemas_cases id files with ⟨-, grown, -⟩ | ⟨-, -, left⟩
    · exact congrArg Holdings.counters grown
    · exact congrArg (·.cluster.counters) left
  | arrange arranges =>
    exact kept (congrArg Holdings.counters (arranges.keeps_holdings site.network)) nofun
  | opening settings => exact kept rfl nofun
  | manager files name there =>
    obtain ⟨registry, -, rfl⟩ := Option.map_eq_some_iff.mp there
    obtain ⟨_, _, called⟩ := Host.called_manager files name ⟨site.network, registry⟩
    exact kept (congrArg Holdings.counters called.holdings) nofun
  | remoteCache files name cache? there =>
    obtain ⟨registry, -, rfl⟩ := Option.map_eq_some_iff.mp there
    obtain ⟨_, _, called⟩ := Host.called_remoteCache files name cache? ⟨site.network, registry⟩
    exact kept (congrArg Holdings.counters called.holdings) nofun
  | counters name there =>
    rw [Host.state_counters, putHost_self there]
    exact kept rfl nofun
  | shutDown there =>
    have retired := Host.retired_shutdown (order.host there)
    obtain ⟨registry, -, rfl⟩ := Option.map_eq_some_iff.mp there
    exact kept (congrArg Cluster.counters retired.cluster) nofun

theorem Run.counters (run : Run deeds site) : Counters.Run deeds site.network.cluster.counters := by
  induction run with
  | start => exact .start
  | deed earlier does ih => exact .deed ih (does.does_counters (Run.reachable earlier).inOrder)

end Site

theorem CounterHandle.run_run {α : Type} (handle : CounterHandle)
    (action : Action Counters RemoteError α) (network : Network) :
    (handle.run action).run network =
      ⟨network.setCluster (setCounters (action.run network.cluster.counters).state network.cluster),
        (action.run network.cluster.counters).events,
        (action.run network.cluster.counters).result⟩ := rfl

/-- In every site that comes about, bounds hold for counters and for where they start, and values fit the
range. A request that is refused, or that finds a name taken, leaves the counters as they are, and
another changes the counter of its name alone; a sum is exact within the range. A reset gives back the
initial value of the definition that created the counter and was not removed since, and fails if there
is none. -/
theorem Site.Run.counters_stay_sound {deeds : List Deed} {site : Site} (run : Run deeds site) :
    (∀ (name : String) (counter : Counter), site.network.cluster.counters[name]? = some counter →
      counter.Sound ∧ Int64.minValue.toInt ≤ counter.value.toInt ∧
        counter.value.toInt ≤ Int64.maxValue.toInt) ∧
    (∀ {α : Type} (handle : CounterHandle) (request : CounterRequest α),
      let done := (handle.run request.action).run site.network
      (request.Declined done.result → done.state = site.network) ∧
        ∀ name : String, request.name? ≠ some name →
          done.state.cluster.counters[name]? = site.network.cluster.counters[name]?) ∧
    (∀ (handle : CounterHandle) (name : String) (delta sum : Int64),
      let done := (handle.run (Counters.add name delta)).run site.network
      done.result = .ok sum → ∃ counter, site.network.cluster.counters[name]? = some counter ∧
        sum.toInt = max Int64.minValue.toInt
          (min (counter.value.toInt + delta.toInt) Int64.maxValue.toInt) ∧
        done.state.cluster.counters[name]? = some { counter with value := sum }) ∧
    ∀ (handle : CounterHandle) (name : String),
      let done := (handle.run (Counters.reset name)).run site.network
      match standing? name deeds with
      | some meaning => done.result = .ok () ∧
        done.state.cluster.counters[name]? = some ⟨meaning, meaning.initial⟩
      | none => done.result = .error (.undefinedCounter name) := by
  have stands := run.counters.stands
  refine ⟨?_, ?_, ?_, ?_⟩
  · intro name counter there
    exact ⟨stands.sound name counter there, Int64.minValue_le_toInt _, Int64.toInt_le _⟩
  · intro α handle request
    have leaves := request.leaves site.network.cluster.counters
    constructor
    · intro declined
      rw [CounterHandle.run_run] at declined ⊢
      simp only at declined ⊢
      rw [leaves.eq_of_declined declined]
      rfl
    · intro name apart
      exact leaves.getElem?_of_ne apart
  · intro handle name delta sum done given
    exact Counters.sum_of_add given
  · intro handle name done
    have settled := stands.settled name
    have reset : done.result = ((Counters.reset name).run site.network.cluster.counters).result ∧
        done.state.cluster.counters =
          ((Counters.reset name).run site.network.cluster.counters).state := ⟨rfl, rfl⟩
    rw [reset.1, reset.2, Counters.run_reset, ← settled]
    cases there : site.network.cluster.counters[name]? with
    | none => rfl
    | some counter => exact ⟨rfl, Std.ExtTreeMap.getElem?_insert_self⟩

/-- Of three requests to counters the second finds the name taken, and the third adds. -/
theorem restored_counter :
    ∃ (deeds : List Deed) (site : Site), Site.Run deeds site ∧
      standing? "n" deeds = some ⟨1, some ⟨0, 5⟩⟩ ∧
      (site.network.cluster.counters["n"]?.map Counter.value) = some 4 ∧
      (∀ counter, site.network.cluster.counters["n"]? = some counter → counter.Sound) ∧
      let done := ((⟨some 1⟩ : CounterHandle).run (Counters.reset "n")).run site.network
      done.result = .ok () ∧
        done.state.cluster.counters["n"]? = some ⟨⟨1, some ⟨0, 5⟩⟩, 1⟩ := by
  let bounded : CounterDefinition := ⟨1, some ⟨0, 5⟩⟩
  let defined : Site.Run _ _ := .deed .start (.count ⟨some 0⟩ (.define "n" bounded))
  let taken : Site.Run _ _ := .deed defined (.count ⟨none⟩ (.define "n" ⟨2, none⟩))
  let added : Site.Run _ _ := .deed taken (.count ⟨some 1⟩ (.add "n" 3))
  obtain ⟨deeds, site, run, standing, value⟩ : ∃ (deeds : List Deed) (site : Site),
      Site.Run deeds site ∧ standing? "n" deeds = some bounded ∧
        site.network.cluster.counters["n"]?.map Counter.value = some 4 :=
    ⟨_, _, added, by decide +kernel, by decide +kernel⟩
  obtain ⟨sound, -, -, reset⟩ := run.counters_stay_sound
  refine ⟨deeds, site, run, standing, value, fun counter there => (sound "n" counter there).1, ?_⟩
  have restored := reset ⟨some 1⟩ "n"
  rw [standing] at restored
  exact restored

/-- Managers have no part in counters: the requests of any run are answered from one table, none as
stopped. Through a manager that was stopped, a request is answered and done as on the cluster itself. -/
theorem Site.Run.counters_outlive_managers {deeds : List Deed} {site : Site} (run : Run deeds site) :
    Counters.Run deeds site.network.cluster.counters ∧
    (∀ {α : Type} (handle : CounterHandle) (request : CounterRequest α)
      (answer : Except RemoteError α), .counted handle request answer ∈ deeds →
        answer ≠ .error .stopped) ∧
    ∀ id, WasStopped deeds id → ∀ {α : Type} (request : CounterRequest α),
      let done := ((⟨some id⟩ : CounterHandle).run request.action).run site.network
      done = ((⟨none⟩ : CounterHandle).run request.action).run site.network ∧
        done.result ≠ .error .stopped ∧
        request.Leaves site.network.cluster.counters done.result done.state.cluster.counters := by
  refine ⟨run.counters, ?_, ?_⟩
  · intro α handle request answer member refused
    exact run.counters.stands.answers handle request answer member .stopped refused
  · intro id _ α request done
    have leaves := request.leaves site.network.cluster.counters
    refine ⟨rfl, ?_, leaves⟩
    intro refused
    exact leaves.ofCounter refused

theorem run_of_counting_client {settings : ClientsSettings} {registry : Registry} {name : String}
    {meaning : CounterDefinition} {looked : Outcome Host ClientError (Option ManagerId)}
    {defined : Outcome Network RemoteError Bool} {down : Outcome Host ClientError Unit}
    {id : ManagerId} (fresh : { settings } = registry)
    (looks : (Host.manager .missing "c").run ⟨{}, registry⟩ = looked)
    (defines : ((⟨some id⟩ : CounterHandle).run (Counters.define name meaning)).run
      looked.state.network = defined)
    (shut : Host.shutdown.run ⟨defined.state, looked.state.registry⟩ = down) :
    Site.Run [.other, .called 0 looked.result, .counted ⟨some id⟩ (.define name meaning) defined.result,
        .shutDown 0] ⟨down.state.network, [down.state.registry]⟩ := by
  have opened : Site.Run [.other] ⟨{}, [registry]⟩ := by
    rw [← fresh]
    exact .deed .start (.opening settings)
  have looks : Site.Does ⟨{}, [registry]⟩ (.called 0 looked.result)
      ⟨looked.state.network, [looked.state.registry]⟩ := by
    rw [← looks]
    exact .manager .missing "c" rfl
  have defines : Site.Does ⟨looked.state.network, [looked.state.registry]⟩
      (.counted ⟨some id⟩ (.define name meaning) defined.result)
      ⟨defined.state, [looked.state.registry]⟩ := by
    rw [← defines]
    exact .count _ (.define name meaning)
  have shut : Site.Does ⟨defined.state, [looked.state.registry]⟩ (.shutDown 0)
      ⟨down.state.network, [down.state.registry]⟩ := by
    rw [← shut]
    exact .shutDown rfl
  exact .deed (.deed (.deed opened looks) defines) shut

theorem exists_stopped_counting :
    ∃ (deeds : List Deed) (site : Site), Site.Run deeds site ∧ WasStopped deeds 0 ∧
      site.network.isStarted 0 = false ∧
      site.network.cluster.counters["n"]? = some ⟨⟨1, none⟩, 1⟩ := by
  let registry : Registry := { settings := Interleaving.servedSettings }
  let looked := (Host.manager .missing "c").run ⟨{}, registry⟩
  let defined := ((⟨some 0⟩ : CounterHandle).run (Counters.define "n" ⟨1, none⟩)).run
    looked.state.network
  let down := (Host.shutdown : Action Host ClientError Unit).run ⟨defined.state, looked.state.registry⟩
  have facts : looked.result.toOption = some (some 0) ∧ down.state.network.isStarted 0 = false ∧
      down.state.network.cluster.counters["n"]? = some ⟨⟨1, none⟩, 1⟩ := by
    decide +kernel
  have run := @run_of_counting_client Interleaving.servedSettings registry "n" ⟨1, none⟩
    looked defined down 0 rfl rfl rfl rfl
  clear_value down defined looked
  obtain ⟨given, stopped, counter⟩ := facts
  rw [eq_ok_of_toOption given] at run
  exact ⟨_, _, run, .inr ⟨0, by simp, by simp⟩, stopped, counter⟩

/-- Through a manager that was stopped a counter is added to, although no cache is reached. -/
theorem stopped_manager_counts :
    ∃ (deeds : List Deed) (site : Site), Site.Run deeds site ∧ WasStopped deeds 0 ∧
      (((⟨0, "books"⟩ : CacheHandle).get "k").run site.network).result = .error .stopped ∧
      let done := ((⟨some 0⟩ : CounterHandle).run (Counters.add "n" 2)).run site.network
      done.result = .ok 3 ∧
        done.state.cluster.counters["n"]? ≠ site.network.cluster.counters["n"]? := by
  obtain ⟨deeds, site, run, stopped, isStarted, counter⟩ := exists_stopped_counting
  refine ⟨deeds, site, run, stopped, ?_, ?_⟩
  · rw [CacheHandle.get, Network.run_through_of_stopped isStarted]
  · intro done
    have added := Counters.run_add "n" 2 site.network.cluster.counters
    have sum : saturatingAdd 1 2 = 3 := by decide +kernel
    have within : checkBounds "n" none 3 = .ok () := rfl
    simp only [counter, sum, within] at added
    have result : done.result = ((Counters.add "n" 2).run site.network.cluster.counters).result := rfl
    have left : done.state.cluster.counters =
        ((Counters.add "n" 2).run site.network.cluster.counters).state := rfl
    rw [result, left, added, counter]
    refine ⟨rfl, ?_⟩
    rw [Std.ExtTreeMap.getElem?_insert_self]
    decide

/-- A counter that was defined through a manager is read through it after the manager was stopped. -/
theorem stopped_manager_reads_counter :
    ∃ (deeds : List Deed) (site : Site), Site.Run deeds site ∧ WasStopped deeds 0 ∧
      let done := ((⟨some 0⟩ : CounterHandle).run (CounterRequest.value "n").action).run site.network
      done.result = .ok 1 ∧ done.result ≠ .error .stopped ∧
        (CounterRequest.value "n").Leaves site.network.cluster.counters done.result
          done.state.cluster.counters := by
  obtain ⟨deeds, site, run, stopped, -, counter⟩ := exists_stopped_counting
  obtain ⟨-, -, alike⟩ := run.counters_outlive_managers
  refine ⟨deeds, site, run, stopped, ?_, (alike 0 stopped (.value "n")).2⟩
  have found := Counters.find_of_some counter
  rw [CounterHandle.run_run, CounterRequest.action, Counters.value, run_bind_of_ok (run_get _), found]
  rfl

end HotRod
