import HotRod.Configuration.Apply
import HotRod.Settings.Basic
set_option autoImplicit false

/-!
# Assembling a client

A client's draft is assembled from its own properties and its runtime settings. Schemas are registered
first; then the runtime settings are written over the properties, and the resulting bag is applied to
an empty draft. Overrides for caches come last and need no property.
-/

namespace HotRod

/-- The draft of a client, and the schema files to write to the server. -/
structure Assembly where
  draft : Draft
  schemaFiles : List (String × String)

namespace CacheOverrides

/-- Read the definition from a file, or take an inline one. -/
def applyDefinition (files : Files) (runtime : RuntimeSettings) (name : String)
    (overrides : CacheOverrides) : Action Draft ClientError Unit := do
  match overrides.definitionFile with
  | some file =>
    let path := runtime.resolve file
    Action.emit ⟨.info, "Loading cache configuration", [("cache", name), ("path", path)]⟩
    let draft ← Action.get
    let cache ← Action.ofExcept (((draft.cache name).readDefinition files path).mapError
      (.cacheConfigurationResource name path))
    Action.modify (Draft.setCache name cache)
  | none =>
    match overrides.definition with
    | some text => Action.modify fun draft =>
      draft.setCache name { draft.cache name with definition := some text }
    | none => pure ()

/-- The near-cache settings, where they are set. -/
def applyNearCache (overrides : CacheOverrides) (cache : CacheDraft) : CacheDraft :=
  { cache with
    nearCacheMaxEntries := overrides.nearCacheMaxEntries.or cache.nearCacheMaxEntries
    nearCacheMode := overrides.nearCacheMode.or cache.nearCacheMode
    bloomFilter := overrides.bloomFilter.or cache.bloomFilter }

def apply (files : Files) (runtime : RuntimeSettings) (name : String)
    (overrides : CacheOverrides) : Action Draft ClientError Unit := do
  overrides.applyDefinition files runtime name
  Action.modify fun draft => draft.setCache name (overrides.applyNearCache (draft.cache name))

end CacheOverrides

namespace RuntimeSection

def warn {σ ε : Type} (client : String) (runtime : RuntimeSection) : Action σ ε Unit :=
  Action.forEach runtime.deprecations fun message =>
    Action.emit ⟨.warn, message, [("client", client)]⟩

def writeTo (runtime : RuntimeSection) (bag : Properties) : Properties :=
  bag.extend runtime.properties

/-- Apply the overrides for caches in the order of their names. -/
def applyCaches (files : Files) (settings : RuntimeSettings) (runtime : RuntimeSection) :
    Action Draft ClientError Unit :=
  Action.forEach runtime.caches.toList fun (name, overrides) => overrides.apply files settings name

end RuntimeSection

namespace ClientDefinition

/-- The draft that a client starts from. -/
def emptyDraft (definition : ClientDefinition) : Draft :=
  { marshaller := definition.marshaller.map Marshaller.kind }

def effectiveBag (bag : Properties) : Option RuntimeSection → Properties
  | none => bag
  | some runtime => runtime.writeTo bag

/-- Apply the bag, and then the overrides for caches. -/
def fill (files : Files) (settings : RuntimeSettings) (runtime : Option RuntimeSection)
    (bag : Properties) : Action Draft ClientError Unit := do
  Draft.applyBag files bag
  match runtime with
  | none => pure ()
  | some runtime => runtime.applyCaches files settings

/-- Assemble a client from its definition and the runtime settings. -/
def assemble (files : Files) (settings : RuntimeSettings) (name : String) :
    Action ClientDefinition ClientError Assembly := do
  Action.emit ⟨.debug, "Translating client configuration", [("client", name)]⟩
  let definition ← Action.get
  let own ← registerSchemas
  let runtime := settings.clients[name]?
  match runtime with
  | none => pure ()
  | some runtime => runtime.warn name
  let bag := effectiveBag own runtime
  let draft ← Action.building definition.emptyDraft (fill files settings runtime bag)
  return ⟨draft, definition.schemas.filesToPush bag⟩

end ClientDefinition

end HotRod
