import HotRod.Client.Definition
import HotRod.Client.Name
import HotRod.Client.Runtime
set_option autoImplicit false

/-!
# Settings of all clients

The runtime sections and the definitions of clients by name, with what holds for every client:
whether schemas are registered on the server, and the directory that files are named from.
-/

namespace HotRod

structure RuntimeSettings where
  /-- Whether schemas are written to the server; they are unless it is set otherwise. -/
  schemaRegistration? : Option Bool := none
  resourceDirectory : String := "."
  clients : KeyMap RuntimeSection := ∅
  deriving DecidableEq

namespace RuntimeSettings

def registersSchemas (runtime : RuntimeSettings) : Bool := runtime.schemaRegistration?.getD true

/-- The path of a resource: below the resource directory unless it is absolute. -/
def resolve (runtime : RuntimeSettings) (path : String) : String :=
  Path.join runtime.resourceDirectory path

end RuntimeSettings

structure ClientsSettings where
  runtime : RuntimeSettings := {}
  definitions : KeyMap ClientDefinition := ∅

namespace ClientsSettings

/-- The names of the clients with a definition or a runtime section. -/
def names (settings : ClientsSettings) : KeySet :=
  (settings.definitions.keys ++ settings.runtime.clients.keys).foldl .insert ∅

def runtimeOf (settings : ClientsSettings) (name : String) : Option RuntimeSection :=
  settings.runtime.clients[name]?

/-- The definition of a client, empty if there is none. -/
def definitionOf (settings : ClientsSettings) (name : String) : ClientDefinition :=
  settings.definitions[name]?.getD {}

def setRuntime (name : String) (runtime : RuntimeSection) (settings : ClientsSettings) :
    ClientsSettings :=
  { settings with runtime.clients := settings.runtime.clients.insert name runtime }

def setDefinition (name : String) (definition : ClientDefinition) (settings : ClientsSettings) :
    ClientsSettings :=
  { settings with definitions := settings.definitions.insert name definition }

def returnDefinition (name : String) (definition : ClientDefinition) (settings : ClientsSettings) :
    ClientsSettings :=
  if settings.definitions.contains name then settings.setDefinition name definition else settings

theorem mem_names {settings : ClientsSettings} {name : String} :
    name ∈ settings.names ↔ name ∈ settings.definitions ∨ name ∈ settings.runtime.clients := by
  unfold names
  rw [KeySet.mem_foldl_insert]
  simp

end ClientsSettings

end HotRod
