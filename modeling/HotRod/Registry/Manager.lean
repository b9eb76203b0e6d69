import HotRod.Registry.Basic
set_option autoImplicit false

/-!
# Managers of clients

The manager of a client is looked up, or else the client is assembled and connected and its schemas are
written to the server. A client without settings or without servers has no manager. When anything
fails nothing is registered, and a manager that is connected already is stopped.
-/

namespace HotRod

/-- The definition to assemble a client from: one with a runtime section beside it, or with properties
of its own, or an empty one for a runtime section alone. -/
def ClientsSettings.usableDefinition? (settings : ClientsSettings) (client : String) :
    Option ClientDefinition :=
  match settings.definitions[client]?, settings.runtime.clients[client]? with
  | some definition, some _ => some definition
  | some definition, none => if definition.properties.isEmpty then none else some definition
  | none, some _ => some {}
  | none, none => none

/-- How a configuration becomes a manager. -/
abbrev Connector := Configuration → Action Host RemoteError ManagerId

namespace Host

def connect : Connector := fun configuration => onNetwork (Network.connect configuration)

def setSettings (settings : ClientsSettings) (host : Host) : Host :=
  host.setRegistry (host.registry.setSettings settings)

def assemble (files : Files) (client : String) : Action Host ClientError Assembly :=
  Action.onPart (·.registry.settings) setSettings (ClientsSettings.assemble files client)

/-- Write the schemas of a client to the server of its new manager, which is stopped if that fails. -/
def pushSchemas (client : String) (id : ManagerId) (schemaFiles : List (String × String)) :
    Action Host ClientError Unit := do
  match ← Action.attempt (onNetwork (Network.pushSchemas id schemaFiles)) with
  | .ok _ => pure ()
  | .error error =>
    Action.emit ⟨.error, "Schema registration failed",
      [("client", client), ("error", error.message)]⟩
    onNetwork (Network.stop id)
    Action.fail error

/-- Connect an assembled client and write its schemas to the server. -/
def launch (connector : Connector) (client : String) (assembly : Assembly) :
    Action Host ClientError ManagerId := do
  let configuration ← Action.ofExcept assembly.draft.build
  let id ← (connector configuration).mapError ClientError.remote
  Action.emit ⟨.info, "Started connection manager",
    [("client", client), ("servers", configuration.serverList)]⟩
  if (← Action.get).registry.settings.runtime.registersSchemas then
    pushSchemas client id assembly.schemaFiles
  return id

/-- Build the manager of a client, if it has settings and servers. -/
def buildManager (connector : Connector) (files : Files) (client : String) :
    Action Host ClientError (Option ManagerId) := do
  Action.emit ⟨.debug, "Initializing connection manager", [("client", client)]⟩
  match (← Action.get).registry.settings.usableDefinition? client with
  | none =>
    Action.emit ⟨.debug, "No configuration for client, skipping", [("client", client)]⟩
    return none
  | some _ =>
    let assembly ← assemble files client
    if assembly.draft.servers.isEmpty then
      Action.emit ⟨.debug, "No servers configured for client, skipping", [("client", client)]⟩
      return none
    else
      let id ← launch connector client assembly
      return some id

/-- Register a new manager, unless the registry was closed in the meantime. -/
def register (client : String) (id : ManagerId) : Action Host ClientError Unit := do
  if (← Action.get).registry.isClosed then
    onNetwork (Network.stop id)
    Action.fail .registryClosed
  else modifyRegistry (Registry.insert client id)

/-- The manager of a client, built on first use with a given way to connect. -/
def managerVia (connector : Connector) (files : Files) (name : String) :
    Action Host ClientError (Option ManagerId) := do
  ensureOpen
  let client := canonicalName name
  match (← Action.get).registry.live[client]? with
  | some id => return some id
  | none =>
    match ← buildManager connector files client with
    | none => return none
    | some id =>
      register client id
      return some id

/-- The manager of a client, built on first use. -/
def manager (files : Files) (name : String) : Action Host ClientError (Option ManagerId) :=
  managerVia connect files name

end Host

end HotRod
