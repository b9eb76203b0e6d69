import HotRod.Registry.Manager
set_option autoImplicit false

/-!
# Caches and counters of clients

A cache is asked for by the name of a client and its own name; without a name, or with an empty one, it
is the default cache. A cache that the server lacks is made from one template. Counters are asked for
by a client that has a live manager.
-/

namespace HotRod

/-- What a cache is made from that the server lacks. -/
def defaultTemplate : String :=
  "<distributed-cache><encoding media-type=\"application/x-protostream\"/></distributed-cache>"

namespace Host

def lookUpCache (id : ManagerId) : Option String → Action Network RemoteError (Option CacheHandle)
  | some name => Network.cache id name
  | none => Network.defaultCache id

/-- A handle on a cache of a client, with a given way to connect. -/
def remoteCacheVia (connector : Connector) (files : Files) (name : String) (cache? : Option String) :
    Action Host ClientError CacheHandle := do
  let client := canonicalName name
  let wanted? := cache?.filter (!·.isEmpty)
  let cache := wanted?.getD HotRod.defaultCache
  match ← managerVia connector files client with
  | none =>
    Action.emit ⟨.error, "Unable to produce remote cache: no connection manager",
      [("client", client), ("cache", cache)]⟩
    Action.fail (.managerUnavailable client cache)
  | some id =>
    match ← (onNetwork (lookUpCache id wanted?)).mapError ClientError.remote with
    | some handle => return handle
    | none =>
      Action.emit ⟨.warn, "Cache not found on the server, creating it with the default template",
        [("client", client), ("cache", cache)]⟩
      (onNetwork (Network.getOrCreate id cache defaultTemplate)).mapError ClientError.remote

/-- A handle on a cache of a client. -/
def remoteCache (files : Files) (name : String) (cache? : Option String) :
    Action Host ClientError CacheHandle :=
  remoteCacheVia connect files name cache?

/-- Access to the counters for a client with a live manager. -/
def counters (name : String) : Action Host ClientError CounterHandle := do
  ensureOpen
  let client := canonicalName name
  match (← Action.get).registry.live[client]? with
  | some id => return ⟨some id⟩
  | none => Action.fail (.noConnectionManager client)

end Host

end HotRod
