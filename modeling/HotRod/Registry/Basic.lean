import HotRod.Network.Schemas
import HotRod.Settings.Assembly
set_option autoImplicit false

/-!
# Registries

A registry keeps at most one connection manager for each client, built when it is first asked for. It
is open until it is shut down, which begins when it takes no more requests and is finished when its
managers are stopped. A host is a registry together with the network it connects to.
-/

namespace HotRod

inductive RegistryPhase where
  | opened
  /-- No more requests are taken, but managers may still be live. -/
  | closing
  | closed
  deriving DecidableEq, Repr

structure Registry where
  settings : ClientsSettings
  /-- The managers that are registered, by the names of their clients. -/
  live : KeyMap ManagerId := ∅
  phase : RegistryPhase := .opened

namespace Registry

def isClosed (registry : Registry) : Bool := registry.phase != .opened

def setSettings (settings : ClientsSettings) (registry : Registry) : Registry :=
  { registry with settings }

def insert (client : String) (id : ManagerId) (registry : Registry) : Registry :=
  { registry with live := registry.live.insert client id }

def erase (client : String) (registry : Registry) : Registry :=
  { registry with live := registry.live.erase client }

def setPhase (phase : RegistryPhase) (registry : Registry) : Registry := { registry with phase }

/-- The names of the clients with a live manager. -/
def clients (registry : Registry) : List String := registry.live.keys

/-- Open a registry. No connection is made before a manager is asked for. -/
def forSettings {σ ε : Type} (settings : ClientsSettings) : Action σ ε Registry := do
  Action.emit ⟨.debug, "Opened client registry",
    [("clients", Nat.repr settings.names.size),
      ("schema_registration", Text.flagText settings.runtime.registersSchemas)]⟩
  return { settings }

/-- The form for diagnosis: the names of all clients, those with a live manager, and whether the
registry is closed. -/
def describe (registry : Registry) : String :=
  "ClientRegistry \x7b clients: " ++
    Text.inBraces (registry.settings.names.toList.map Text.shown) ++ ", registered: " ++
    Text.inBrackets (registry.clients.map Text.shown) ++
    ", closed: " ++ Text.flagText registry.isClosed ++ " \x7d"

end Registry

structure Host where
  network : Network := {}
  registry : Registry

namespace Host
variable {ε α : Type}

def setNetwork (network : Network) (host : Host) : Host := { host with network }

def setRegistry (registry : Registry) (host : Host) : Host := { host with registry }

def onNetwork (action : Action Network ε α) : Action Host ε α :=
  Action.onPart Host.network setNetwork action

def modifyRegistry (change : Registry → Registry) : Action Host ε Unit :=
  Action.modify fun host => host.setRegistry (change host.registry)

def ensureOpen : Action Host ClientError Unit := do
  if (← Action.get).registry.isClosed then Action.fail .registryClosed else pure ()

end Host

end HotRod
