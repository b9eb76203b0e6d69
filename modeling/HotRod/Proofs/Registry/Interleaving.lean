import HotRod.Proofs.Network.Managers
import HotRod.Registry.Shutdown
import Mathlib.Tactic.Simps.Basic
import Mathlib.Logic.Relation
set_option autoImplicit false

/-!
# Interleaved calls

Any number of lookups and shutdowns work on one registry at the same time. A call goes from phase to
phase in atomic steps: it reads or swaps the closed flag, looks up, inserts or removes a manager,
fetches, takes or releases a build lock, connects, pushes schemas or stops a manager. Between two
steps of a call any other call may take some, and what is outside of the registry may change the
network.
-/

namespace HotRod

structure Plan where
  configuration : Configuration
  schemaFiles : List (String × String)

def Host.prepare (files : Files) (client : String) : Action Host ClientError (Option Plan) := do
  match (← Action.get).registry.settings.usableDefinition? client with
  | none => return none
  | some _ =>
    let assembly ← assemble files client
    if assembly.draft.servers.isEmpty then return none
    else
      let configuration ← Action.ofExcept assembly.draft.build
      return some ⟨configuration, assembly.schemaFiles⟩

namespace Interleaving

abbrev Answer := Except ClientError (Option ManagerId)

/-- What all calls work on, with a record of the managers that were connected. -/
structure Shared where
  host : Host
  /-- The clients that have a build lock. -/
  locks : KeySet := ∅
  /-- The calls that hold a build lock, by the names of the clients. -/
  holders : KeyMap Nat := ∅
  /-- The managers that the registry connected, with the names of their clients. -/
  connected : List (String × ManagerId) := []
  /-- The number of times the registry tried to connect. -/
  attempts : Nat := 0

namespace Shared

abbrev live (s : Shared) : KeyMap ManagerId := s.host.registry.live

abbrev isClosed (s : Shared) : Bool := s.host.registry.isClosed

abbrev network (s : Shared) : Network := s.host.network

@[simps]
def perform {ε α : Type} (action : Action Host ε α) (s : Shared) : Shared :=
  { s with host := (action.run s.host).state }

@[simps]
def createLock (client : String) (s : Shared) : Shared :=
  { s with locks := s.locks.insert client }

@[simps]
def take (client : String) (caller : Nat) (s : Shared) : Shared :=
  { s with holders := s.holders.insert client caller }

@[simps]
def release (client : String) (s : Shared) : Shared :=
  { s with holders := s.holders.erase client }

@[simps]
def connect (configuration : Configuration) (s : Shared) : Shared :=
  { s with
    host := ((Host.connect configuration).run s.host).state
    attempts := s.attempts + 1 }

@[simps]
def note (client : String) (id : ManagerId) (s : Shared) : Shared :=
  { s with connected := (client, id) :: s.connected }

end Shared

/-- Where a lookup stands. From `rechecking` to `releasing` it holds the build lock of its client. -/
inductive LookupPhase where
  | arriving
  | looking
  | fetching
  | waiting
  | rechecking
  | relooking
  | preparing
  | connecting (plan : Plan)
  | pushing (id : ManagerId) (schemaFiles : List (String × String))
  | discarding (id : ManagerId) (error : ClientError)
  | confirming (id : ManagerId)
  | inserting (id : ManagerId)
  | releasing (answer : Answer)
  | returned (answer : Answer)

def Shared.afterConnect (s : Shared) (plan : Plan) (id : ManagerId) : LookupPhase :=
  if s.host.registry.settings.runtime.registersSchemas then .pushing id plan.schemaFiles
  else .confirming id

inductive LookupStep (caller : Nat) (client : String) :
    Shared → LookupPhase → Shared → LookupPhase → Prop
  | refuse {s : Shared} : s.isClosed = true →
      LookupStep caller client s .arriving s (.returned (.error .registryClosed))
  | enter {s : Shared} : s.isClosed = false → LookupStep caller client s .arriving s .looking
  | find {s : Shared} {id : ManagerId} : s.live[client]? = some id →
      LookupStep caller client s .looking s (.returned (.ok (some id)))
  | miss {s : Shared} : s.live[client]? = none → LookupStep caller client s .looking s .fetching
  | fetch {s : Shared} : LookupStep caller client s .fetching (s.createLock client) .waiting
  | take {s : Shared} : s.holders[client]? = none →
      LookupStep caller client s .waiting (s.take client caller) .rechecking
  | rerefuse {s : Shared} : s.isClosed = true →
      LookupStep caller client s .rechecking s (.releasing (.error .registryClosed))
  | reenter {s : Shared} : s.isClosed = false →
      LookupStep caller client s .rechecking s .relooking
  | refind {s : Shared} {id : ManagerId} : s.live[client]? = some id →
      LookupStep caller client s .relooking s (.releasing (.ok (some id)))
  | remiss {s : Shared} : s.live[client]? = none →
      LookupStep caller client s .relooking s .preparing
  | fail {s : Shared} {files : Files} {error : ClientError} :
      ((Host.prepare files client).run s.host).result = .error error →
      LookupStep caller client s .preparing (s.perform (Host.prepare files client))
        (.releasing (.error error))
  | skip {s : Shared} {files : Files} :
      ((Host.prepare files client).run s.host).result = .ok none →
      LookupStep caller client s .preparing (s.perform (Host.prepare files client))
        (.releasing (.ok none))
  | prepare {s : Shared} {files : Files} {plan : Plan} :
      ((Host.prepare files client).run s.host).result = .ok (some plan) →
      LookupStep caller client s .preparing (s.perform (Host.prepare files client))
        (.connecting plan)
  | lose {s : Shared} {plan : Plan} {error : RemoteError} :
      ((Host.connect plan.configuration).run s.host).result = .error error →
      LookupStep caller client s (.connecting plan) (s.connect plan.configuration)
        (.releasing (.error (.remote error)))
  | connect {s : Shared} {plan : Plan} {id : ManagerId} :
      ((Host.connect plan.configuration).run s.host).result = .ok id →
      LookupStep caller client s (.connecting plan)
        ((s.connect plan.configuration).note client id) (s.afterConnect plan id)
  | push {s : Shared} {id : ManagerId} {schemaFiles : List (String × String)} {pushed : Nat} :
      ((Network.pushSchemas id schemaFiles).run s.network).result = .ok pushed →
      LookupStep caller client s (.pushing id schemaFiles)
        (s.perform (Host.onNetwork (Network.pushSchemas id schemaFiles))) (.confirming id)
  | reject {s : Shared} {id : ManagerId} {schemaFiles : List (String × String)}
      {error : ClientError} :
      ((Network.pushSchemas id schemaFiles).run s.network).result = .error error →
      LookupStep caller client s (.pushing id schemaFiles)
        (s.perform (Host.onNetwork (Network.pushSchemas id schemaFiles))) (.discarding id error)
  | discard {s : Shared} {id : ManagerId} {error : ClientError} :
      LookupStep caller client s (.discarding id error)
        (s.perform (Host.onNetwork (Network.stop id) : Action Host ClientError Unit))
        (.releasing (.error error))
  | renounce {s : Shared} {id : ManagerId} : s.isClosed = true →
      LookupStep caller client s (.confirming id) s (.discarding id .registryClosed)
  | confirm {s : Shared} {id : ManagerId} : s.isClosed = false →
      LookupStep caller client s (.confirming id) s (.inserting id)
  | insert {s : Shared} {id : ManagerId} :
      LookupStep caller client s (.inserting id)
        (s.perform (Host.modifyRegistry (Registry.insert client id) : Action Host ClientError Unit))
        (.releasing (.ok (some id)))
  | release {s : Shared} {answer : Answer} :
      LookupStep caller client s (.releasing answer) (s.release client) (.returned answer)

/-- Where a shutdown stands. The one that closes the registry passes through all build locks there
are, and then through all clients with a live manager. -/
inductive ShutdownPhase where
  | arriving
  | closing
  /-- Going over the locks, of which some were there at the start. -/
  | collecting (due : KeySet)
  /-- Waiting for the first of these locks. -/
  | draining (names : List String)
  /-- Holding one lock, with others to wait for. -/
  | passing (name : String) (names : List String)
  /-- Going over the live managers, of which some were there at the start. -/
  | surveying (due : List String)
  | retiring (names : List String)
  | stopping (client : String) (id : ManagerId) (names : List String)
  | returned (closedIt : Bool)

/-- The steps of a shutdown. What is there while a table is gone over is found, and what is added or
removed meanwhile may be. -/
inductive ShutdownStep (caller : Nat) : Shared → ShutdownPhase → Shared → ShutdownPhase → Prop
  | leave {s : Shared} : s.isClosed = true →
      ShutdownStep caller s .arriving s (.returned false)
  | close {s : Shared} : s.isClosed = false →
      ShutdownStep caller s .arriving (s.perform (Host.beginShutdown : Action Host ClientError Unit))
        .closing
  | collect {s : Shared} : ShutdownStep caller s .closing s (.collecting s.locks)
  | collected {s : Shared} {due : KeySet} {names : List String} :
      (∀ name, name ∈ due → name ∈ names) → (∀ name ∈ names, name ∈ s.locks) →
      ShutdownStep caller s (.collecting due) s (.draining names)
  | take {s : Shared} (name : String) {names : List String} : s.holders[name]? = none →
      ShutdownStep caller s (.draining (name :: names)) (s.take name caller) (.passing name names)
  | release {s : Shared} (name : String) {names : List String} :
      ShutdownStep caller s (.passing name names) (s.release name) (.draining names)
  | survey {s : Shared} : ShutdownStep caller s (.draining []) s (.surveying s.live.keys)
  | surveyed {s : Shared} {due names : List String} :
      (∀ name ∈ due, name ∈ s.live → name ∈ names) → (∀ name ∈ names, name ∈ due ∨ name ∈ s.live) →
      names.Pairwise (compare · · = .lt) →
      ShutdownStep caller s (.surveying due) s (.retiring names)
  | remove {s : Shared} (client : String) {id : ManagerId} {names : List String} :
      s.live[client]? = some id →
      ShutdownStep caller s (.retiring (client :: names))
        (s.perform (Host.modifyRegistry (Registry.erase client) : Action Host ClientError Unit))
        (.stopping client id names)
  | skip {s : Shared} (client : String) {names : List String} : s.live[client]? = none →
      ShutdownStep caller s (.retiring (client :: names)) s (.retiring names)
  | stop {s : Shared} {client : String} {id : ManagerId} {names : List String} :
      ShutdownStep caller s (.stopping client id names)
        (s.perform (Host.onNetwork (Network.stop id) : Action Host ClientError Unit))
        (.retiring names)
  | finish {s : Shared} :
      ShutdownStep caller s (.retiring [])
        (s.perform (Host.modifyRegistry (Registry.setPhase .closed) : Action Host ClientError Unit))
        (.returned true)

inductive Call where
  | lookup (client : String) (phase : LookupPhase)
  | shutdown (phase : ShutdownPhase)

/-- The steps of a call, which is known by its place in the order of arrival. -/
inductive CallStep (caller : Nat) : Shared → Call → Shared → Call → Prop
  | lookup {s s' : Shared} (client : String) {phase phase' : LookupPhase} :
      LookupStep caller client s phase s' phase' →
      CallStep caller s (.lookup client phase) s' (.lookup client phase')
  | shutdown {s s' : Shared} {phase phase' : ShutdownPhase} :
      ShutdownStep caller s phase s' phase' →
      CallStep caller s (.shutdown phase) s' (.shutdown phase')

/-- All calls so far, in the order of their arrival, and what they work on. -/
structure State where
  shared : Shared
  calls : List Call := []

/-- A step of the whole: a call arrives, a call takes a step, or time passes outside. -/
inductive Step : State → State → Prop
  | lookup {s : Shared} {calls : List Call} (name : String) :
      Step ⟨s, calls⟩ ⟨s, calls ++ [.lookup (canonicalName name) .arriving]⟩
  | shutdown {s : Shared} {calls : List Call} :
      Step ⟨s, calls⟩ ⟨s, calls ++ [.shutdown .arriving]⟩
  | call {s s' : Shared} {calls : List Call} {caller : Nat} {call call' : Call} :
      calls[caller]? = some call → CallStep caller s call s' call' →
      Step ⟨s, calls⟩ ⟨s', calls.set caller call'⟩
  | outside {s : Shared} {calls : List Call} {network : Network} : s.network.Ages network →
      Step ⟨s, calls⟩ ⟨{ s with host := s.host.setNetwork network }, calls⟩

abbrev Steps : State → State → Prop := Relation.ReflTransGen Step

def State.opened (network : Network) (settings : ClientsSettings) : State where
  shared := { host := { network, registry := { settings } } }

end Interleaving

end HotRod
