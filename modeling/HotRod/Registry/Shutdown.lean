import HotRod.Registry.Manager
set_option autoImplicit false

/-!
# Shutting down

A registry is shut down in two steps: it closes to requests, and then every live manager is stopped
and taken out, in the order of the clients' names. Only the first shutdown does anything.
-/

namespace HotRod.Host
variable {ε : Type}

def beginShutdown : Action Host ε Unit := do
  if (← Action.get).registry.phase = .opened then modifyRegistry (Registry.setPhase .closing)

/-- Stop and take out the manager of a client. -/
def retire (client : String) (id : ManagerId) : Action Host ε Unit := do
  modifyRegistry (Registry.erase client)
  onNetwork (Network.stop id)
  Action.emit ⟨.debug, "Stopped connection manager", [("client", client)]⟩

/-- Retire every live manager of a registry that is closing. -/
def finishShutdown : Action Host ε Unit := do
  let registry := (← Action.get).registry
  if registry.phase = .closing then
    Action.forEach registry.live.toList fun (client, id) => retire client id
    modifyRegistry (Registry.setPhase .closed)
    Action.emit ⟨.info, "Client registry shut down",
      [("stopped", Nat.repr registry.live.size)]⟩

def shutdown : Action Host ε Unit := do
  beginShutdown
  finishShutdown

/-- Connect while someone else acts, such as to shut the registry down, once an attempt is not refused. -/
def connectWhile (act : Action Host RemoteError Unit) : Connector := fun configuration => do
  onNetwork Network.attemptConnection
  act
  onNetwork (Network.establish configuration)

end HotRod.Host
