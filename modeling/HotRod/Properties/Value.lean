import HotRod.Error
import HotRod.Text.Blank
set_option autoImplicit false

/-!
# Typed values

Flags, numbers and names of modes as they stand in properties and settings. Blanks around a value and
the case of its letters do not matter, except that settings files spell flags in full.
-/

namespace HotRod

def readFlag (text : String) : Except ValueFault Bool :=
  match Text.readFlag? ((Text.trim text.toList).map Char.toLower) with
  | some flag => .ok flag
  | none => .error .notFlag

def readNumber {α : Type} (reader : List Char → Except Text.NumberFault α) (text : String) :
    Except ValueFault α :=
  (reader (Text.trim text.toList)).mapError .number

/-- How much of the cluster's topology a client tracks. -/
inductive ClientIntelligence where
  /-- Talk to the configured servers only. -/
  | basic
  /-- Follow changes of the cluster's members. -/
  | topologyAware
  /-- Route each key to its owner. -/
  | hashDistributionAware
  deriving DecidableEq, Repr

namespace ClientIntelligence

def text : ClientIntelligence → String
  | basic => "BASIC"
  | topologyAware => "TOPOLOGY_AWARE"
  | hashDistributionAware => "HASH_DISTRIBUTION_AWARE"

/-- The upper-case name without blanks around it, with underscores for hyphens. -/
def nameOf (text : String) : String :=
  .ofList ((Text.trim text.toList).map fun c => if c = '-' then '_' else c.toUpper)

def read (text : String) : Except ValueFault ClientIntelligence :=
  let name := nameOf text
  if name = basic.text then .ok basic
  else if name = topologyAware.text then .ok topologyAware
  else if name = hashDistributionAware.text then .ok hashDistributionAware
  else .error (.unknownIntelligence name)

@[simp] theorem read_text (intelligence : ClientIntelligence) :
    read intelligence.text = .ok intelligence := by
  cases intelligence <;> rfl

end ClientIntelligence

/-- What a client keeps of a cache on its own side. -/
inductive NearCacheMode where
  | disabled
  /-- Local copies that events of the server invalidate. -/
  | invalidated
  deriving DecidableEq, Repr

namespace NearCacheMode

def text : NearCacheMode → String
  | disabled => "DISABLED"
  | invalidated => "INVALIDATED"

def nameOf (text : String) : String := .ofList ((Text.trim text.toList).map Char.toUpper)

def read (text : String) : Except ValueFault NearCacheMode :=
  let name := nameOf text
  if name = disabled.text then .ok disabled
  else if name = invalidated.text then .ok invalidated
  else .error (.unknownNearCacheMode name)

@[simp] theorem read_text (mode : NearCacheMode) : read mode.text = .ok mode := by
  cases mode <;> rfl

end NearCacheMode

end HotRod
