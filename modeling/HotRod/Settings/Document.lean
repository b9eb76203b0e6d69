import HotRod.Settings.Basic
import HotRod.Settings.Error
import HotRod.Settings.Key
import HotRod.Settings.Section
set_option autoImplicit false

/-!
# Settings from documents

The groups of a document are taken in order, and within a group its entries. A title alone makes the
client or cache that it names; an entry sets one thing, and replaces what was set before. Unknown keys
are passed over with a warning. The first title or value that cannot be read ends it all.
-/

namespace HotRod

/-- The key, among the runtime settings of the default client, of a setting for all clients. -/
def schemaRegistrationKey : String := "use-schema-registration"

namespace ClientsSettings

/-- The runtime section of a client, empty if there is none. -/
def runtimeSection (settings : ClientsSettings) (client : String) : RuntimeSection :=
  (settings.runtimeOf client).getD {}

def overrides (settings : ClientsSettings) (client cache : String) : CacheOverrides :=
  (settings.runtimeSection client).caches[cache]?.getD {}

def setOverrides (client cache : String) (overrides : CacheOverrides) (settings : ClientsSettings) :
    ClientsSettings :=
  let runtime := settings.runtimeSection client
  settings.setRuntime client { runtime with caches := runtime.caches.insert cache overrides }

def setProperty (client key value : String) (settings : ClientsSettings) : ClientsSettings :=
  let definition := settings.definitionOf client
  settings.setDefinition client
    { definition with properties := definition.properties.insert key value }

def setSchemaRegistration (enabled : Bool) (settings : ClientsSettings) : ClientsSettings :=
  { settings with runtime.schemaRegistration? := some enabled }

def setResourceDirectory (directory : String) (settings : ClientsSettings) : ClientsSettings :=
  { settings with runtime.resourceDirectory := directory }

/-- Make sure that what a section is about is there. -/
def touch (target : SectionTarget) (settings : ClientsSettings) : ClientsSettings :=
  match target with
  | .runtime client => settings.setRuntime client (settings.runtimeSection client)
  | .cache client cache => settings.setOverrides client cache (settings.overrides client cache)
  | .properties client => settings.setDefinition client (settings.definitionOf client)

/-- The error of a value that an entry of a section cannot have. -/
def refuse (title key : String) (refused : RefusedValue) : SettingsError :=
  .invalidValue title key refused.value refused.fault

def applyRuntimeEntry (title client key value : String) :
    Action ClientsSettings SettingsError Unit := do
  if key = schemaRegistrationKey ∧ client = defaultClient then
    let enabled ← Action.ofExcept ((readSettingFlag value).mapError (refuse title key))
    Action.modify (setSchemaRegistration enabled)
  else
    match RuntimeKey.ofText? key with
    | none =>
      Action.emit ⟨.warn, "Ignoring unknown client setting", [("section", title), ("key", key)]⟩
    | some setting =>
      let settings ← Action.get
      let runtime ← Action.ofExcept
        (((settings.runtimeSection client).set value setting).mapError (refuse title key))
      Action.modify (setRuntime client runtime)

def applyCacheEntry (title client cache key value : String) :
    Action ClientsSettings SettingsError Unit := do
  match OverrideKey.ofText? key with
  | none =>
    Action.emit ⟨.warn, "Ignoring unknown cache setting", [("section", title), ("key", key)]⟩
  | some setting =>
    let settings ← Action.get
    let overrides ← Action.ofExcept
      (((settings.overrides client cache).set value setting).mapError (refuse title key))
    Action.modify (setOverrides client cache overrides)

def applyEntry (title : String) (target : SectionTarget) (key value : String) :
    Action ClientsSettings SettingsError Unit :=
  match target with
  | .properties client => Action.modify (setProperty client key value)
  | .runtime client => applyRuntimeEntry title client key value
  | .cache client cache => applyCacheEntry title client cache key value

def applyGroup (group : Ini.Group) : Action ClientsSettings SettingsError Unit :=
  match SectionTarget.ofTitle? group.title with
  | none => Action.fail (.unrecognisedTitle group.title)
  | some target => do
    Action.modify (touch target)
    Action.forEach group.entries fun (key, value) => applyEntry group.title target key value

def applyDocument (document : Ini.Document) : Action ClientsSettings SettingsError Unit := do
  if document.untitled.isEmpty then Action.forEach document.groups applyGroup
  else Action.fail (.parse .untitledEntries)

end ClientsSettings

end HotRod
