import HotRod.Network.Basic
set_option autoImplicit false

/-!
# Cache handles and counter handles

A cache handle reaches a cache of the cluster through a manager, as long as that is started. Counters
are reached alike whatever manager a handle came from.
-/

namespace HotRod

structure CacheHandle where
  manager : ManagerId
  cache : String
  deriving DecidableEq, Repr

namespace CacheHandle

def get (handle : CacheHandle) (key : String) : Action Network RemoteError (Option ByteArray) :=
  Network.through handle.manager (Cluster.get handle.cache key)

def put (handle : CacheHandle) (key : String) (value : ByteArray) :
    Action Network RemoteError (Option ByteArray) :=
  Network.through handle.manager (Cluster.put handle.cache key value)

def remove (handle : CacheHandle) (key : String) : Action Network RemoteError (Option ByteArray) :=
  Network.through handle.manager (Cluster.remove handle.cache key)

def contains (handle : CacheHandle) (key : String) : Action Network RemoteError Bool :=
  Network.through handle.manager (Cluster.contains handle.cache key)

def size (handle : CacheHandle) : Action Network RemoteError Nat :=
  Network.through handle.manager (Cluster.size handle.cache)

def clear (handle : CacheHandle) : Action Network RemoteError Unit :=
  Network.through handle.manager (Cluster.clear handle.cache)

end CacheHandle

namespace Network

def cache (id : ManagerId) (name : String) : Action Network RemoteError (Option CacheHandle) :=
  through id do
    return if (← Action.get).hasCache name then some ⟨id, name⟩ else none

/-- A handle on the default cache, if it is there. -/
def defaultCache (id : ManagerId) : Action Network RemoteError (Option CacheHandle) :=
  through id do
    let cluster ← Action.get
    let name := cluster.defaultName
    return if cluster.hasCache name then some ⟨id, name⟩ else none

/-- A handle on a cache, which is made from a template if it is not there. -/
def getOrCreate (id : ManagerId) (name template : String) :
    Action Network RemoteError CacheHandle := do
  through id (Cluster.create name template)
  return ⟨id, name⟩

def cacheNames (id : ManagerId) : Action Network RemoteError (List String) :=
  through id do return (← Action.get).caches.keys

end Network

/-- Access to the counters of the cluster, from a manager or from the cluster itself. -/
structure CounterHandle where
  manager : Option ManagerId
  deriving DecidableEq, Repr

namespace CounterHandle

def setCounters (counters : Counters) (cluster : Cluster) : Cluster := { cluster with counters }

def run {α : Type} (_handle : CounterHandle) (action : Action Counters RemoteError α) :
    Action Network RemoteError α :=
  Network.onCluster (Action.onPart Cluster.counters setCounters action)

end CounterHandle

end HotRod
