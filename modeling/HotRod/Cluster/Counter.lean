import HotRod.Action
import HotRod.Error
import HotRod.KeyMap
set_option autoImplicit false

/-!
# Counters

Named integers that all clients of a cluster share. A counter may have bounds, which its value never
leaves: a sum beyond them is refused. A sum beyond the range of the integers is cut off at its end.
-/

namespace HotRod

structure Bounds where
  lower : Int64
  upper : Int64
  deriving DecidableEq

namespace Bounds

def Contains (bounds : Bounds) (value : Int64) : Prop :=
  bounds.lower ≤ value ∧ value ≤ bounds.upper

instance (bounds : Bounds) (value : Int64) : Decidable (bounds.Contains value) :=
  inferInstanceAs (Decidable (_ ∧ _))

end Bounds

structure CounterDefinition where
  initial : Int64
  bounds : Option Bounds := none
  deriving DecidableEq

structure Counter where
  definition : CounterDefinition
  value : Int64
  deriving DecidableEq

/-- The sum, or the end of the range that it lies beyond. -/
def saturatingAdd (left right : Int64) : Int64 :=
  let sum := left.toInt + right.toInt
  if Int64.maxValue.toInt < sum then Int64.maxValue
  else if sum < Int64.minValue.toInt then Int64.minValue
  else .ofInt sum

def checkBounds (name : String) (bounds : Option Bounds) (value : Int64) : Except RemoteError Unit :=
  match bounds with
  | none => .ok ()
  | some bounds =>
    if bounds.Contains value then .ok ()
    else .error (.counterOutOfBounds name bounds.lower bounds.upper)

/-- The counters of a cluster by name. -/
abbrev Counters := KeyMap Counter

namespace Counters

def find (counters : Counters) (name : String) : Except RemoteError Counter :=
  match counters[name]? with
  | some counter => .ok counter
  | none => .error (.undefinedCounter name)

/-- Define a counter at its initial value; false if the name is taken. -/
def define (name : String) (definition : CounterDefinition) : Action Counters RemoteError Bool := do
  Action.ofExcept (checkBounds name definition.bounds definition.initial)
  let counters ← Action.get
  if counters.contains name then return false
  else
    Action.modify (·.insert name ⟨definition, definition.initial⟩)
    return true

def isDefined (name : String) : Action Counters RemoteError Bool := do
  return (← Action.get).contains name

def definition (name : String) : Action Counters RemoteError (Option CounterDefinition) := do
  return (← Action.get)[name]?.map Counter.definition

def add (name : String) (delta : Int64) : Action Counters RemoteError Int64 := do
  let counter ← Action.ofExcept (find (← Action.get) name)
  let sum := saturatingAdd counter.value delta
  Action.ofExcept (checkBounds name counter.definition.bounds sum)
  Action.modify (·.insert name { counter with value := sum })
  return sum

def value (name : String) : Action Counters RemoteError Int64 := do
  let counter ← Action.ofExcept (find (← Action.get) name)
  return counter.value

def reset (name : String) : Action Counters RemoteError Unit := do
  let counter ← Action.ofExcept (find (← Action.get) name)
  Action.modify (·.insert name { counter with value := counter.definition.initial })

def remove (name : String) : Action Counters RemoteError Unit := Action.modify (·.erase name)

def names : Action Counters RemoteError (List String) := do
  return (← Action.get).keys

end Counters

end HotRod
