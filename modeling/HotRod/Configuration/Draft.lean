import HotRod.Configuration.Basic
set_option autoImplicit false

/-!
# Drafts of configurations

A draft collects settings one by one and is built into a configuration. Building fills in defaults
and refuses a draft in two cases only: authentication without anything to authenticate with, and a
near-cache bloom filter over an unbounded near cache.
-/

namespace HotRod

def defaultMechanism : String := "SCRAM-SHA-512"

def defaultRealm : String := "default"

def defaultServerName : String := "infinispan"

def unboundedNearCache : Int64 := -1

def defaultConnectTimeout : UInt64 := 2000

def defaultSocketTimeout : UInt64 := 2000

def defaultMaxRetries : UInt32 := 3

structure AuthenticationDraft where
  enabled : Option Bool := none
  username : Option String := none
  password : Option String := none
  realm : Option String := none
  serverName : Option String := none
  clientSubject : Option String := none
  callbackHandler : Option String := none
  mechanism : Option String := none
  deriving DecidableEq, Repr

namespace AuthenticationDraft

/-- Whether there is a user or a handler to authenticate with. -/
def hasCredentials (draft : AuthenticationDraft) : Bool :=
  draft.username.isSome || draft.callbackHandler.isSome

def isEnabled (draft : AuthenticationDraft) : Bool := draft.enabled.getD draft.hasCredentials

def effectiveMechanism (draft : AuthenticationDraft) : String := draft.mechanism.getD defaultMechanism

/-- Whether the identity comes from outside, as with a TLS certificate. -/
def isExternal (draft : AuthenticationDraft) : Bool :=
  draft.effectiveMechanism.toLower == "external"

def build (draft : AuthenticationDraft) : Except ClientError Authentication :=
  if draft.isEnabled && !draft.hasCredentials && !draft.isExternal then
    .error (.invalidConfiguration (.credentialsMissing draft.effectiveMechanism))
  else .ok {
    enabled := draft.isEnabled
    username := draft.username
    password := draft.password
    realm := draft.realm.getD defaultRealm
    serverName := draft.serverName.getD defaultServerName
    clientSubject := draft.clientSubject
    callbackHandler := draft.callbackHandler
    mechanism := draft.effectiveMechanism }

end AuthenticationDraft

structure TlsDraft where
  enabled : Option Bool := none
  sniHostName : Option String := none
  trustStoreFile : Option String := none
  trustStorePassword : Option String := none
  trustStoreType : Option String := none
  provider : Option String := none
  protocol : Option String := none
  ciphers : List String := []
  deriving DecidableEq, Repr

/-- TLS as it is set, else enabled with a trust store. -/
def TlsDraft.build (draft : TlsDraft) : Tls where
  enabled := draft.enabled.getD draft.trustStoreFile.isSome
  sniHostName := draft.sniHostName
  trustStoreFile := draft.trustStoreFile
  trustStorePassword := draft.trustStorePassword
  trustStoreType := draft.trustStoreType
  provider := draft.provider
  protocol := draft.protocol
  ciphers := draft.ciphers

structure CacheDraft where
  definition : Option String := none
  definitionFile : Option String := none
  templateName : Option String := none
  nearCacheMode : Option NearCacheMode := none
  nearCacheMaxEntries : Option Int64 := none
  bloomFilter : Option Bool := none
  deriving DecidableEq

namespace CacheDraft

/-- Take the definition from a file, which is read at once. -/
def readDefinition (files : Files) (path : String) (draft : CacheDraft) :
    Except FileFault CacheDraft :=
  (files.read path).map fun text =>
    { draft with definition := some text, definitionFile := some path }

def maxEntries (draft : CacheDraft) : Int64 := draft.nearCacheMaxEntries.getD unboundedNearCache

def usesBloomFilter (draft : CacheDraft) : Bool := draft.bloomFilter.getD false

def build (name : String) (draft : CacheDraft) : Except ClientError CacheConfiguration :=
  if draft.usesBloomFilter && draft.maxEntries ≤ 0 then
    .error (.invalidConfiguration (.bloomFilterUnbounded name))
  else .ok {
    name
    definition := draft.definition
    definitionFile := draft.definitionFile
    templateName := draft.templateName
    nearCacheMode := draft.nearCacheMode.getD .disabled
    nearCacheMaxEntries := draft.maxEntries
    bloomFilter := draft.usesBloomFilter }

end CacheDraft

structure Draft where
  servers : List ServerAddress := []
  marshaller : Option MarshallerKind := none
  authentication : AuthenticationDraft := {}
  tls : TlsDraft := {}
  intelligence : ClientIntelligence := .hashDistributionAware
  tracingPropagation : Bool := true
  connectTimeout : UInt64 := defaultConnectTimeout
  socketTimeout : UInt64 := defaultSocketTimeout
  maxRetries : UInt32 := defaultMaxRetries
  tcpNoDelay : Bool := true
  tcpKeepAlive : Bool := false
  caches : KeyMap CacheDraft := ∅
  /-- The properties applied so far. -/
  properties : Properties := ∅
  deriving DecidableEq

namespace Draft

def addServer (address : ServerAddress) (draft : Draft) : Draft :=
  { draft with servers := draft.servers ++ [address] }

def addServers (list : String) (draft : Draft) : Except ClientError Draft := do
  let servers ← parseServerList list
  return { draft with servers := draft.servers ++ servers }

/-- The draft of a cache, empty if it is not there. -/
def cache (draft : Draft) (name : String) : CacheDraft := draft.caches[name]?.getD {}

def setCache (name : String) (cache : CacheDraft) (draft : Draft) : Draft :=
  { draft with caches := draft.caches.insert name cache }

def touchCache (name : String) (draft : Draft) : Draft := draft.setCache name (draft.cache name)

/-- Build each cache in the order of names, up to the first that is refused. -/
def buildCaches (built : KeyMap CacheConfiguration) :
    List (String × CacheDraft) → Except ClientError (KeyMap CacheConfiguration)
  | [] => .ok built
  | (name, cache) :: caches => do
    let configuration ← cache.build name
    buildCaches (built.insert name configuration) caches

/-- Check and freeze a draft. -/
def build (draft : Draft) : Except ClientError Configuration := do
  let caches ← buildCaches ∅ draft.caches.toList
  let authentication ← draft.authentication.build
  return {
    servers := draft.servers
    marshaller := draft.marshaller
    authentication
    tls := draft.tls.build
    intelligence := draft.intelligence
    tracingPropagation := draft.tracingPropagation
    connectTimeout := draft.connectTimeout
    socketTimeout := draft.socketTimeout
    maxRetries := draft.maxRetries
    tcpNoDelay := draft.tcpNoDelay
    tcpKeepAlive := draft.tcpKeepAlive
    caches
    properties := draft.properties }

end Draft

end HotRod
