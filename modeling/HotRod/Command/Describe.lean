import HotRod.Command.Settings
import HotRod.Configuration.Json
import HotRod.Settings.Assembly
import HotRod.Text.Duration
set_option autoImplicit false

/-!
# Describing a client

The configuration of a client, as lines of text or as JSON. Neither form shows a password.
-/

namespace HotRod.Command

def serversLine (configuration : Configuration) : String :=
  let servers := configuration.serverList
  "  Servers:             " ++ (if servers.isEmpty then "(none)" else servers) ++ "\n"

def marshallerLine (configuration : Configuration) : String :=
  "  Marshaller:          " ++ configuration.marshaller.elim "(default)" MarshallerKind.mediaType ++
    "\n"

def timeoutsLine (configuration : Configuration) : String :=
  "  Timeouts:            connect " ++ Text.durationText configuration.connectTimeout.toNat ++
    ", socket " ++ Text.durationText configuration.socketTimeout.toNat ++ ", " ++
    Nat.repr configuration.maxRetries.toNat ++ " retries\n"

def authenticationLine (authentication : Authentication) : String :=
  if authentication.enabled then
    "  Authentication:      " ++ authentication.mechanism ++ " as " ++
      authentication.username.getD "(callback)" ++ " (realm " ++ authentication.realm ++
      ", server " ++ authentication.serverName ++ ")\n"
  else "  Authentication:      disabled\n"

def tlsLine (tls : Tls) : String :=
  if tls.enabled then
    "  TLS:                 enabled, trust store " ++ tls.trustStoreFile.getD "(none)" ++ "\n"
  else "  TLS:                 disabled\n"

def cacheLine (name : String) (cache : CacheConfiguration) : String :=
  "  Cache " ++ name ++ ": near cache " ++ cache.nearCacheMode.text ++ " (max " ++
    Text.intText cache.nearCacheMaxEntries.toInt ++ "), definition " ++
    cache.definitionFile.getD "(none)" ++ "\n"

def propertiesLine (properties : Properties) : String :=
  "  Properties:          " ++ Nat.repr properties.size ++ " (" ++
    Nat.repr properties.schemaFiles.length ++ " schema files)\n"

def configurationReport (client : String) (configuration : Configuration) : String :=
  "Client: " ++ client ++ "\n" ++ serversLine configuration ++ marshallerLine configuration ++
    "  Client intelligence: " ++ configuration.intelligence.text ++ "\n" ++
    "  Tracing propagation: " ++ Text.flagText configuration.tracingPropagation ++ "\n" ++
    timeoutsLine configuration ++ authenticationLine configuration.authentication ++
    tlsLine configuration.tls ++
    String.join (configuration.caches.toList.map fun (name, cache) => cacheLine name cache) ++
    propertiesLine configuration.properties

/-- Describe a client, which has to be one of the settings. -/
def describe {σ : Type} (files : Files) (settings : ClientsSettings) (client? : Option String)
    (json : Bool) : Action σ CommandError String := do
  let client := clientNamed client?
  requireClient settings client
  let configuration ← (Action.within settings (ClientsSettings.resolve files client)).mapError
    CommandError.client
  return if json then configuration.toJson.render ++ "\n"
    else configurationReport client configuration

end HotRod.Command
