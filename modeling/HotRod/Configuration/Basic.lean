import HotRod.Marshaller
import HotRod.Properties.Basic
import HotRod.Server.Address
set_option autoImplicit false

/-!
# Client configurations

A configuration is what a connection manager is built from: servers, marshaller, credentials, TLS,
timeouts and the settings of single caches, together with the properties it came from.
-/

namespace HotRod

/-- SASL authentication. -/
structure Authentication where
  enabled : Bool
  username : Option String
  password : Option String
  realm : String
  serverName : String
  clientSubject : Option String
  callbackHandler : Option String
  mechanism : String
  deriving DecidableEq, Repr

structure Tls where
  enabled : Bool
  sniHostName : Option String
  trustStoreFile : Option String
  trustStorePassword : Option String
  trustStoreType : Option String
  provider : Option String
  protocol : Option String
  ciphers : List String
  deriving DecidableEq, Repr

/-- The settings of one cache. -/
structure CacheConfiguration where
  name : String
  /-- The definition used when the cache is created on demand. -/
  definition : Option String
  /-- The file the definition was read from. -/
  definitionFile : Option String
  templateName : Option String
  nearCacheMode : NearCacheMode
  nearCacheMaxEntries : Int64
  bloomFilter : Bool
  deriving DecidableEq

structure Configuration where
  servers : List ServerAddress
  marshaller : Option MarshallerKind
  authentication : Authentication
  tls : Tls
  intelligence : ClientIntelligence
  tracingPropagation : Bool
  /-- In milliseconds. -/
  connectTimeout : UInt64
  /-- In milliseconds. -/
  socketTimeout : UInt64
  maxRetries : UInt32
  tcpNoDelay : Bool
  tcpKeepAlive : Bool
  caches : KeyMap CacheConfiguration
  properties : Properties
  deriving DecidableEq

namespace Configuration

def serverList (configuration : Configuration) : String := serverListText configuration.servers

def usesProtoStream (configuration : Configuration) : Bool :=
  configuration.marshaller == some .protoStream

end Configuration

end HotRod
