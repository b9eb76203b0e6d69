import HotRod.Network.Cache
import HotRod.Proofs.Action.Alike
import HotRod.Proofs.Network.Schemas
import Mathlib.Logic.Function.Basic
set_option autoImplicit false

/-!
# The contents of caches

A cluster is seen through its caches as one map for each name, where a cache that is not there is
empty. What is asked of a cache is answered from its own map; a request that writes changes that map
alone, or nothing if the cache is closed to writers.
-/

namespace HotRod

open HotRod.Action

namespace Cluster

def contents (cluster : Cluster) (name : String) : KeyMap ByteArray := (cluster.store name).entries

def isReadOnly (cluster : Cluster) (name : String) : Bool := (cluster.store name).readOnly

theorem store_setStore_of_ne {name other : String} (apart : other ≠ name) (store : CacheStore)
    (cluster : Cluster) : (cluster.setStore name store).store other = cluster.store other := by
  have found := KeyMap.getElem?_insert cluster.caches name other store
  rw [if_neg apart.symm] at found
  exact congrArg (·.getD {}) found

@[simp] theorem contents_setStore (name : String) (store : CacheStore) (cluster : Cluster) :
    (cluster.setStore name store).contents = Function.update cluster.contents name store.entries := by
  funext other
  by_cases same : other = name
  · subst same
    rw [Function.update_self, contents, store_setStore]
  · rw [Function.update_of_ne same, contents, store_setStore_of_ne same, contents]

@[simp] theorem isReadOnly_setStore (name : String) (store : CacheStore) (cluster : Cluster) :
    (cluster.setStore name store).isReadOnly =
      Function.update cluster.isReadOnly name store.readOnly := by
  funext other
  by_cases same : other = name
  · subst same
    rw [Function.update_self, isReadOnly, store_setStore]
  · rw [Function.update_of_ne same, isReadOnly, store_setStore_of_ne same, isReadOnly]

theorem store_of_missing {cluster : Cluster} {name : String} (missing : ¬ cluster.hasCache name = true) :
    cluster.store name = {} := by
  have none : cluster.caches[name]? = none := by
    apply Std.ExtTreeMap.getElem?_eq_none
    intro there
    exact missing (Std.ExtTreeMap.mem_iff_contains.mp there)
  rw [Cluster.store, none, Option.getD_none]

theorem store_new (name : String) : ({} : Cluster).store name = {} := by
  have found : ({} : Cluster).caches[name]? = lastValue? name [(metadataCache, {})] :=
    KeyMap.getElem?_ofPairs _ name
  rw [Cluster.store, found, lastValue?_cons, lastValue?_nil, Option.none_or]
  by_cases same : metadataCache = name
  · rw [if_pos same, Option.getD_some]
  · rw [if_neg same, Option.getD_none]

theorem contents_define (name : String) (cluster : Cluster) :
    (cluster.define name).contents = cluster.contents := by
  rw [define, contents_setStore]
  exact Function.update_eq_self name cluster.contents

theorem isReadOnly_define (name : String) (cluster : Cluster) :
    (cluster.define name).isReadOnly = cluster.isReadOnly := by
  rw [define, isReadOnly_setStore]
  exact Function.update_eq_self name cluster.isReadOnly

theorem run_write (name : String) (change : KeyMap ByteArray → KeyMap ByteArray) (cluster : Cluster) :
    (write name change).run cluster =
      if cluster.isReadOnly name then ⟨cluster, [], .error (.rejected name "cache is read-only")⟩
      else ⟨cluster.setStore name { cluster.store name with entries := change (cluster.contents name) },
        [], .ok ()⟩ := by
  rw [write, run_bind_of_ok (run_get cluster), isReadOnly]
  by_cases closed : (cluster.store name).readOnly = true
  · rw [if_pos closed, if_pos closed]
    rfl
  · rw [if_neg closed, if_neg closed]
    rfl

theorem run_write_then {α : Type} (name : String) (change : KeyMap ByteArray → KeyMap ByteArray)
    (value : α) (cluster : Cluster) :
    (write name change >>= fun _ => pure value).run cluster =
      if cluster.isReadOnly name then ⟨cluster, [], .error (.rejected name "cache is read-only")⟩
      else ⟨cluster.setStore name { cluster.store name with entries := change (cluster.contents name) },
        [], .ok value⟩ := by
  rw [run_bind, run_write]
  by_cases closed : cluster.isReadOnly name = true
  · rw [if_pos closed, if_pos closed]
  · rw [if_neg closed, if_neg closed]
    rfl

end Cluster

inductive CacheRequest : Type → Type
  | get (key : String) : CacheRequest (Option ByteArray)
  | put (key : String) (value : ByteArray) : CacheRequest (Option ByteArray)
  | remove (key : String) : CacheRequest (Option ByteArray)
  | contains (key : String) : CacheRequest Bool
  | size : CacheRequest Nat
  | clear : CacheRequest Unit

namespace CacheRequest
variable {α : Type}

def on (cache : String) : CacheRequest α → Action Cluster RemoteError α
  | get key => Cluster.get cache key
  | put key value => Cluster.put cache key value
  | remove key => Cluster.remove cache key
  | contains key => Cluster.contains cache key
  | size => Cluster.size cache
  | clear => Cluster.clear cache

def through (handle : CacheHandle) : CacheRequest α → Action Network RemoteError α
  | get key => handle.get key
  | put key value => handle.put key value
  | remove key => handle.remove key
  | contains key => handle.contains key
  | size => handle.size
  | clear => handle.clear

theorem through_eq (handle : CacheHandle) (request : CacheRequest α) :
    request.through handle = Network.through handle.manager (request.on handle.cache) := by
  cases request <;> rfl

def answer : CacheRequest α → KeyMap ByteArray → α
  | get key, entries => entries[key]?
  | put key _, entries => entries[key]?
  | remove key, entries => entries[key]?
  | contains key, entries => entries.contains key
  | size, entries => entries.size
  | clear, _ => ()

/-- What is written to a map, unless it is only read. -/
def change? : CacheRequest α → Option (KeyMap ByteArray → KeyMap ByteArray)
  | put key value => some (·.insert key value)
  | remove key => some (·.erase key)
  | clear => some fun _ => ∅
  | get _ => none
  | contains _ => none
  | size => none

theorem run_on_of_reads {request : CacheRequest α} (reads : request.change? = none) (cache : String)
    (cluster : Cluster) :
    (request.on cache).run cluster = ⟨cluster, [], .ok (request.answer (cluster.contents cache))⟩ := by
  cases request with
  | get key => rfl
  | contains key => rfl
  | size => rfl
  | put key value => contradiction
  | remove key => contradiction
  | clear => contradiction

/-- A request that writes is refused by a closed cache, and else it is done and answered from what was
there before. -/
theorem run_on_of_writes {request : CacheRequest α} {change : KeyMap ByteArray → KeyMap ByteArray}
    (writes : request.change? = some change) (cache : String) (cluster : Cluster) :
    (request.on cache).run cluster =
      if cluster.isReadOnly cache then ⟨cluster, [], .error (.rejected cache "cache is read-only")⟩
      else ⟨cluster.setStore cache { cluster.store cache with
        entries := change (cluster.contents cache) }, [],
          .ok (request.answer (cluster.contents cache))⟩ := by
  have read (key : String) : (Cluster.get cache key).run cluster =
      ⟨cluster, [], .ok (cluster.contents cache)[key]?⟩ := rfl
  cases request with
  | get key => contradiction
  | contains key => contradiction
  | size => contradiction
  | put key value =>
    obtain rfl := Option.some.inj writes
    rw [on, Cluster.put, run_bind_of_ok (read key), Cluster.run_write_then]
    rfl
  | remove key =>
    obtain rfl := Option.some.inj writes
    rw [on, Cluster.remove, run_bind_of_ok (read key), Cluster.run_write_then]
    rfl
  | clear =>
    obtain rfl := Option.some.inj writes
    exact Cluster.run_write cache (fun _ => ∅) cluster

end CacheRequest

end HotRod
