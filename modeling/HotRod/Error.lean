import HotRod.Text.Decimal
import HotRod.Files.Basic
set_option autoImplicit false

/-!
# Errors of clients

Why a client cannot be configured, connected or used. Each cause is a constructor; its wording is in
`message` alone.
-/

namespace HotRod

/-- Why a value does not suit its key. -/
inductive ValueFault where
  /-- A flag that is neither `true` nor `false`, whatever the case. -/
  | notFlag
  /-- A flag that is not exactly `true` or `false`. -/
  | notTrueOrFalse
  | number (fault : Text.NumberFault)
  | unknownIntelligence (given : String)
  | unknownNearCacheMode (given : String)
  | unknownMarshaller
  deriving DecidableEq, Repr

def ValueFault.message : ValueFault → String
  | .notFlag => "expected true or false"
  | .notTrueOrFalse => "provided string was not `true` or `false`"
  | .number fault => fault.message
  | .unknownIntelligence given =>
    "unknown client intelligence '" ++ given ++
      "' (expected BASIC, TOPOLOGY_AWARE or HASH_DISTRIBUTION_AWARE)"
  | .unknownNearCacheMode given =>
    "unknown near cache mode '" ++ given ++ "' (expected DISABLED or INVALIDATED)"
  | .unknownMarshaller => "unknown marshaller"

/-- Why a text is no Hot Rod URI. -/
inductive UriFault where
  | missingScheme
  | unknownScheme
  | userEscape
  | passwordEscape
  | serverAddress
  | noServers
  | queryEscape
  deriving DecidableEq, Repr

def UriFault.message : UriFault → String
  | .missingScheme => "missing scheme"
  | .unknownScheme => "scheme must be hotrod or hotrods"
  | .userEscape => "bad escape in user"
  | .passwordEscape => "bad escape in password"
  | .serverAddress => "bad server address"
  | .noServers => "no servers"
  | .queryEscape => "bad escape in query"

/-- Why settings that are valid one by one make no configuration. -/
inductive ConfigurationFault where
  | credentialsMissing (mechanism : String)
  | bloomFilterUnbounded (cache : String)
  deriving DecidableEq, Repr

def ConfigurationFault.message : ConfigurationFault → String
  | .credentialsMissing mechanism =>
    "authentication with " ++ mechanism ++ " requires a username or a callback handler"
  | .bloomFilterUnbounded cache =>
    "near cache bloom filter for cache " ++ cache ++ " requires a positive near cache max entries"

/-- Errors a cluster or its client reports. -/
inductive RemoteError where
  | connection (reason : String)
  | stopped
  | rejected (cache reason : String)
  | invalidTemplate (template : String)
  | undefinedCounter (name : String)
  | counterOutOfBounds (name : String) (lower upper : Int64)
  deriving DecidableEq

def RemoteError.message : RemoteError → String
  | .connection reason => "connection failed: " ++ reason
  | .stopped => "cache manager is stopped"
  | .rejected cache reason => "operation on cache '" ++ cache ++ "' rejected: " ++ reason
  | .invalidTemplate template => "invalid cache template: " ++ template
  | .undefinedCounter name => "counter '" ++ name ++ "' is not defined"
  | .counterOutOfBounds name lower upper =>
    "counter '" ++ name ++ "' would leave its bounds [" ++ Text.intText lower.toInt ++ ", " ++
      Text.intText upper.toInt ++ "]"

/-- Errors while a client is configured or resolved. -/
inductive ClientError where
  | invalidProperty (key value : String) (fault : ValueFault)
  | invalidServerAddress (text : String)
  | invalidUri (uri : String) (fault : UriFault)
  | invalidConfiguration (fault : ConfigurationFault)
  | cacheConfigurationResource (cache path : String) (fault : FileFault)
  | invalidSchema (file : String)
  | managerUnavailable (client cache : String)
  | noConnectionManager (client : String)
  | schemaPush (file : String) (error : RemoteError)
  | registryClosed
  | remote (error : RemoteError)
  deriving DecidableEq

def ClientError.message : ClientError → String
  | .invalidProperty key value fault =>
    "invalid value '" ++ value ++ "' for property " ++ key ++ ": " ++ fault.message
  | .invalidServerAddress text => "invalid server address '" ++ text ++ "'"
  | .invalidUri uri fault => "invalid Hot Rod URI '" ++ uri ++ "': " ++ fault.message
  | .invalidConfiguration fault => "invalid client configuration: " ++ fault.message
  | .cacheConfigurationResource cache path fault =>
    "cannot load configuration for cache " ++ cache ++ " from " ++ path ++ ": " ++ fault.message
  | .invalidSchema file =>
    "invalid schema file '" ++ file ++ "': file name must end with .proto"
  | .managerUnavailable client cache =>
    "Unable to produce RemoteCache. RemoteCacheManager is null. Client: " ++ client ++ ", cache: " ++
      cache
  | .noConnectionManager client => "no connection manager registered for client " ++ client
  | .schemaPush file error =>
    "failed to register schema " ++ file ++ " on the server: " ++ error.message
  | .registryClosed => "client registry is shut down"
  | .remote error => error.message

end HotRod
