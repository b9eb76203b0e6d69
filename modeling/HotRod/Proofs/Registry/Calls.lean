import HotRod.Proofs.Registry.Interleaving
set_option autoImplicit false

/-!
# What the phase of a call means

What others may rely on while a call is in a phase: which lock it holds, for which client it may be
building a manager, which manager it has in its hands, and how far a shutdown has come.
-/

namespace HotRod.Interleaving

namespace LookupPhase

def Holds : LookupPhase → Prop
  | arriving | looking | fetching | waiting | returned _ => False
  | _ => True

def Fetched : LookupPhase → Prop
  | arriving | looking | fetching | returned _ => False
  | _ => True

/-- The lookup found the registry open while it held the lock, and may register a manager. -/
def Builds : LookupPhase → Prop
  | arriving | looking | fetching | waiting | rechecking | releasing _ | returned _ => False
  | _ => True

/-- The lookup found no live manager while it held the lock. -/
def FoundNone : LookupPhase → Prop
  | preparing | connecting _ | pushing _ _ | discarding _ _ | confirming _ | inserting _ => True
  | _ => False

/-- The manager that is connected and neither registered nor stopped yet. -/
def Carries : LookupPhase → ManagerId → Prop
  | pushing id _, other | discarding id _, other | confirming id, other | inserting id, other =>
    id = other
  | _, _ => False

def Answers : LookupPhase → ManagerId → Prop
  | releasing answer, id | returned answer, id => answer = .ok (some id)
  | _, _ => False

end LookupPhase

namespace ShutdownPhase

/-- This shutdown closed the registry. -/
def Closer : ShutdownPhase → Prop
  | arriving => False
  | returned closedIt => closedIt = true
  | _ => True

/-- A lookup of a client may still be building as far as this shutdown knows. -/
def Awaits : ShutdownPhase → String → Prop
  | arriving, _ | closing, _ => True
  | returned closedIt, _ => closedIt = false
  | collecting due, name => name ∈ due
  | draining names, name | passing _ names, name => name ∈ names
  | _, _ => False

/-- The shutdown has waited for all builds. -/
def Settled : ShutdownPhase → Prop
  | surveying _ | retiring _ | stopping _ _ _ => True
  | returned closedIt => closedIt = true
  | _ => False

/-- A client may still have a live manager as far as this shutdown knows. -/
def Leaves : ShutdownPhase → String → Prop
  | surveying due, name => name ∈ due
  | retiring names, name | stopping _ _ names, name => name ∈ names
  | returned closedIt, _ => closedIt = false
  | _, _ => True

end ShutdownPhase

namespace Call

def Holds : Call → String → Prop
  | lookup client phase, name => client = name ∧ phase.Holds
  | shutdown (.passing held _), name => held = name
  | shutdown _, _ => False

def Fetched : Call → String → Prop
  | lookup client phase, name => client = name ∧ phase.Fetched
  | shutdown _, _ => False

def Builds : Call → String → Prop
  | lookup client phase, name => client = name ∧ phase.Builds
  | shutdown _, _ => False

/-- The call has made sure that the client has no live manager. -/
def Cleared : Call → String → Prop
  | lookup client phase, name => client = name ∧ phase.FoundNone
  | shutdown (.stopping client _ _), name => client = name
  | shutdown _, _ => False

/-- The call alone has a manager of a client in its hands. -/
def Carries : Call → String → ManagerId → Prop
  | lookup client phase, name, id => client = name ∧ phase.Carries id
  | shutdown (.stopping client carried _), name, id => client = name ∧ carried = id
  | shutdown _, _, _ => False

/-- The call answers a lookup of a client with a manager. -/
def Answers : Call → String → ManagerId → Prop
  | lookup client phase, name, id => client = name ∧ phase.Answers id
  | shutdown _, _, _ => False

def Closer : Call → Prop
  | lookup _ _ => False
  | shutdown phase => phase.Closer

def Awaits : Call → String → Prop
  | lookup _ _, _ => True
  | shutdown phase, name => phase.Awaits name

def Settled : Call → Prop
  | lookup _ _ => False
  | shutdown phase => phase.Settled

def Leaves : Call → String → Prop
  | lookup _ _, _ => True
  | shutdown phase, name => phase.Leaves name

variable {call : Call} {name : String} {id other : ManagerId}

theorem Builds.holds (builds : call.Builds name) : call.Holds name := by
  rcases call with ⟨client, _ | _⟩ | phase <;>
    simp_all [Builds, Holds, LookupPhase.Builds, LookupPhase.Holds]

theorem Builds.fetched (builds : call.Builds name) : call.Fetched name := by
  rcases call with ⟨client, _ | _⟩ | phase <;>
    simp_all [Builds, Fetched, LookupPhase.Builds, LookupPhase.Fetched]

theorem Builds.awaits (builds : call.Builds name) (any : String) : call.Awaits any := by
  cases call with
  | lookup client phase => exact trivial
  | shutdown phase => exact builds.elim

theorem Cleared.builds_or_settled (cleared : call.Cleared name) : call.Builds name ∨ call.Settled := by
  rcases call with ⟨client, _ | _⟩ | ⟨_ | _⟩ <;>
    simp_all [Cleared, Builds, Settled, LookupPhase.FoundNone, LookupPhase.Builds,
      ShutdownPhase.Settled]

theorem Carries.cleared (carries : call.Carries name id) : call.Cleared name := by
  rcases call with ⟨client, _ | _⟩ | ⟨_ | _⟩ <;>
    simp_all [Carries, Cleared, LookupPhase.Carries, LookupPhase.FoundNone]

theorem Carries.unique (carries : call.Carries name id) (also : call.Carries name other) :
    id = other := by
  rcases call with ⟨client, _ | _⟩ | ⟨_ | _⟩ <;> simp_all [Carries, LookupPhase.Carries]

theorem Settled.closer (settled : call.Settled) : call.Closer := by
  rcases call with _ | ⟨_ | _⟩ <;>
    simp_all [Settled, Closer, ShutdownPhase.Settled, ShutdownPhase.Closer]

theorem Settled.not_awaits (settled : call.Settled) : ¬ call.Awaits name := by
  rcases call with _ | ⟨_ | _⟩ <;>
    simp_all [Settled, Awaits, ShutdownPhase.Settled, ShutdownPhase.Awaits]

theorem leaves_of_not_settled (busy : ¬ call.Settled) : call.Leaves name := by
  rcases call with _ | ⟨_ | _⟩ <;>
    simp_all [Settled, Leaves, ShutdownPhase.Settled, ShutdownPhase.Leaves]

theorem awaits_of_not_closer (other : ¬ call.Closer) : call.Awaits name := by
  rcases call with _ | ⟨_ | _⟩ <;>
    simp_all [Closer, Awaits, ShutdownPhase.Closer, ShutdownPhase.Awaits]

end Call

end HotRod.Interleaving
