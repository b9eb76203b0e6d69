set_option autoImplicit false

/-!
# Client names

Clients are told apart by name. One client is the default, and the empty name stands for it too.
-/

namespace HotRod

def defaultClient : String := "<default>"

def isDefaultClient (name : String) : Bool := name.isEmpty || name == defaultClient

/-- The one name of the client that a name stands for. -/
def canonicalName (name : String) : String := if isDefaultClient name then defaultClient else name

@[simp] theorem isDefaultClient_canonicalName (name : String) :
    isDefaultClient (canonicalName name) = isDefaultClient name := by
  unfold canonicalName
  split
  · next h => rw [h]; rfl
  · rfl

@[simp] theorem canonicalName_canonicalName (name : String) :
    canonicalName (canonicalName name) = canonicalName name := by
  rw [canonicalName, isDefaultClient_canonicalName]
  unfold canonicalName
  split <;> rfl

end HotRod
