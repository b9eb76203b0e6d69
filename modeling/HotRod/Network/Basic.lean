import HotRod.Cluster.Basic
import HotRod.Configuration.Basic
set_option autoImplicit false

/-!
# Networks

A cluster and the connection managers that were connected to it. A manager is known by its place in
the order of connections, and it is started until it is stopped, once and for all. What is asked of a
cluster through a manager needs it to be started.
-/

namespace HotRod

/-- A connection to a cluster. -/
structure Manager where
  configuration : Configuration
  started : Bool := true
  deriving DecidableEq

/-- The place of a manager in the order of connections. -/
abbrev ManagerId := Nat

structure Network where
  cluster : Cluster := {}
  managers : List Manager := []
  /-- The number of attempts to connect, in vain or not. -/
  attempts : Nat := 0
  /-- Why no connection is made at present. -/
  refusal : Option String := none

namespace Network
variable {α : Type}

def setCluster (cluster : Cluster) (network : Network) : Network := { network with cluster }

def onCluster (action : Action Cluster RemoteError α) : Action Network RemoteError α :=
  Action.onPart Network.cluster setCluster action

def isStarted (network : Network) (id : ManagerId) : Bool :=
  network.managers[id]?.elim false Manager.started

/-- Work on the cluster through a manager. -/
def through (id : ManagerId) (action : Action Cluster RemoteError α) :
    Action Network RemoteError α := do
  if (← Action.get).isStarted id then onCluster action else Action.fail .stopped

def countAttempt (network : Network) : Network := { network with attempts := network.attempts + 1 }

def addManager (configuration : Configuration) (network : Network) : Network :=
  { network with
    cluster := network.cluster.addConnection
    managers := network.managers ++ [{ configuration }] }

/-- Count an attempt to connect, which is in vain while connections are refused. -/
def attemptConnection : Action Network RemoteError Unit := do
  Action.modify countAttempt
  match (← Action.get).refusal with
  | some reason => Action.fail (.connection reason)
  | none => pure ()

/-- Add a manager for the servers of a configuration, after an attempt that was not refused. -/
def establish (configuration : Configuration) : Action Network RemoteError ManagerId := do
  let network ← Action.get
  if configuration.servers.isEmpty then Action.fail (.connection "no servers configured")
  else
    Action.modify (addManager configuration)
    Action.emit ⟨.info, "Started in-memory cache manager",
      [("servers", configuration.serverList)]⟩
    return network.managers.length

def connect (configuration : Configuration) : Action Network RemoteError ManagerId := do
  attemptConnection
  establish configuration

def markStopped (id : ManagerId) (network : Network) : Network :=
  { network with managers := network.managers.modify id ({ · with started := false }) }

def stop {ε : Type} (id : ManagerId) : Action Network ε Unit := do
  match (← Action.get).managers[id]? with
  | some ⟨configuration, true⟩ =>
    Action.modify (markStopped id)
    Action.emit ⟨.info, "Stopped in-memory cache manager",
      [("servers", configuration.serverList)]⟩
  | _ => pure ()

end Network

end HotRod
