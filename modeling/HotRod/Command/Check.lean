import HotRod.Command.Settings
import HotRod.Registry.Cache
import HotRod.Registry.Shutdown
set_option autoImplicit false

/-!
# Checking a client

A client is started against a cluster in memory, with all that belongs to it: its configuration, the
connection, its schemas and a cache. So faults of its settings show without a real cluster.
-/

namespace HotRod.Command

structure CheckReport where
  client : String
  /-- The servers of the client, if it could be started. -/
  servers : Option String := none
  cache : Option String := none
  /-- The number of schema files on the server. -/
  schemaFiles : Nat := 0
  deriving DecidableEq, Repr

def serversOf (network : Network) (id : ManagerId) : String :=
  network.managers[id]?.elim "" fun manager => manager.configuration.serverList

def startClient (files : Files) (client : String) (cache? : Option String) :
    Action Host ClientError CheckReport := do
  match ← Host.manager files client with
  | none => return { client }
  | some id =>
    let handle ← Host.remoteCache files client cache?
    let network := (← Action.get).network
    return {
      client
      servers := some (serversOf network id)
      cache := some handle.cache
      schemaFiles := (network.cluster.store metadataCache).entries.size }

/-- Start a client, and shut down whatever comes of it. -/
def tryClient (files : Files) (client : String) (cache? : Option String) :
    Action Host ClientError CheckReport := do
  let result ← Action.attempt (startClient files client cache?)
  Host.shutdown
  Action.ofExcept result

/-- Check a client with the schema files of a directory, if one is given. -/
def checkIn (files : Files) (client : String) (cache? directory? : Option String) :
    Action ClientsSettings CommandError CheckReport := do
  match directory? with
  | some directory => attachSchemas files client directory
  | none => pure ()
  let registry ← Registry.forSettings (← Action.get)
  (Action.within { registry } (tryClient files client cache?)).mapError CommandError.client

def check {σ : Type} (files : Files) (settings : ClientsSettings)
    (client? cache? directory? : Option String) : Action σ CommandError CheckReport :=
  Action.within settings (checkIn files (clientNamed client?) cache? directory?)

def CheckReport.text (report : CheckReport) : String :=
  match report.servers with
  | none => "Client " ++ report.client ++ " is not configured; nothing to start.\n"
  | some servers =>
    "Client " ++ report.client ++ ": configuration accepted for " ++ servers ++
      " (in-process check, no network connection)\n" ++
      "  Schema files on server: " ++ Nat.repr report.schemaFiles ++ "\n" ++
      match report.cache with
      | none => ""
      | some cache => "  Resolved cache: " ++ (if cache.isEmpty then "(default)" else cache) ++ "\n"

end HotRod.Command
