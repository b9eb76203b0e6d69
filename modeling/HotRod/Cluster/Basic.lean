import HotRod.Cluster.Counter
import HotRod.Text.Blank
set_option autoImplicit false

/-!
# Clusters

A cluster in memory: named caches of bytes, counters, and a record of the caches that clients made. A
cache may be closed to writers. The cache for schema files is always there. Caches are never dropped,
and a client that creates a cache which is there already gets it as it is.
-/

namespace HotRod

def metadataCache : String := "___protobuf_metadata"

/-- The name of the default cache, unless another is designated. -/
def defaultCache : String := ""

/-- The number of entries a cache is sure to hold. -/
def defaultCapacity : Nat := 100000

structure CacheStore where
  entries : KeyMap ByteArray := ∅
  readOnly : Bool := false

structure Cluster where
  caches : KeyMap CacheStore := KeyMap.ofPairs [(metadataCache, {})]
  /-- The caches that clients made, with their templates, in order. -/
  created : List (String × String) := []
  /-- The cache designated as the default. -/
  designated : Option String := none
  counters : Counters := ∅
  /-- The number of managers that were connected. -/
  connections : Nat := 0

namespace Cluster

def hasCache (cluster : Cluster) (name : String) : Bool := cluster.caches.contains name

/-- The contents of a cache, empty if it is not there. -/
def store (cluster : Cluster) (name : String) : CacheStore := cluster.caches[name]?.getD {}

def setStore (name : String) (store : CacheStore) (cluster : Cluster) : Cluster :=
  { cluster with caches := cluster.caches.insert name store }

/-- Define a cache, unless it is there. -/
def define (name : String) (cluster : Cluster) : Cluster := cluster.setStore name (cluster.store name)

def defineDefault (name : String) (cluster : Cluster) : Cluster :=
  { cluster.define name with designated := some name }

def rejectWrites (name : String) (cluster : Cluster) : Cluster :=
  cluster.setStore name { cluster.store name with readOnly := true }

def defaultName (cluster : Cluster) : String := cluster.designated.getD defaultCache

def addConnection (cluster : Cluster) : Cluster :=
  { cluster with connections := cluster.connections + 1 }

/-- Whether a cache can be made from a template: an XML or a JSON text. -/
def isTemplate (template : String) : Bool :=
  match Text.trimStart template.toList with
  | c :: _ => c == '<' || c == '\x7b'
  | [] => false

/-- Make a cache from a template, unless it is there. -/
def create (name template : String) : Action Cluster RemoteError Unit := do
  if isTemplate template then
    let cluster ← Action.get
    if cluster.hasCache name then pure ()
    else
      Action.modify fun cluster =>
        { cluster.setStore name {} with created := cluster.created ++ [(name, template)] }
      Action.emit ⟨.debug, "Created cache from template", [("cache", name)]⟩
  else Action.fail (.invalidTemplate template)

/-- Change the entries of a cache that is open to writers. -/
def write (name : String) (change : KeyMap ByteArray → KeyMap ByteArray) :
    Action Cluster RemoteError Unit := do
  let store := (← Action.get).store name
  if store.readOnly then Action.fail (.rejected name "cache is read-only")
  else Action.modify (setStore name { store with entries := change store.entries })

def get (name key : String) : Action Cluster RemoteError (Option ByteArray) := do
  return ((← Action.get).store name).entries[key]?

def contains (name key : String) : Action Cluster RemoteError Bool := do
  return ((← Action.get).store name).entries.contains key

def size (name : String) : Action Cluster RemoteError Nat := do
  return ((← Action.get).store name).entries.size

def put (name key : String) (value : ByteArray) :
    Action Cluster RemoteError (Option ByteArray) := do
  let previous ← get name key
  write name (·.insert key value)
  return previous

def remove (name key : String) : Action Cluster RemoteError (Option ByteArray) := do
  let previous ← get name key
  write name (·.erase key)
  return previous

def clear (name : String) : Action Cluster RemoteError Unit := write name fun _ => ∅

def text? (cluster : Cluster) (name key : String) : Option String :=
  (cluster.store name).entries[key]?.bind String.fromUTF8?

/-- The keys of the cache for schema files, with their values as text. -/
def schemaTexts (cluster : Cluster) : List (String × Option String) :=
  (cluster.store metadataCache).entries.toList.map fun (name, bytes) =>
    (name, String.fromUTF8? bytes)

end Cluster

end HotRod
