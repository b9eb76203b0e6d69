import HotRod.Client.Assembly
set_option autoImplicit false

/-!
# Settings of a cache and their sources

A setting of a cache has sources in three places: the overrides of the runtime section, the bag and the
query of a URI. A definition is given as it is, or as a file that holds it. In the overrides and in the
bag the file ranks above the definition, while in the query the later of the two counts.
-/

namespace HotRod

/-- The settings of one cache, by the type of their values. -/
inductive CacheSetting : Type → Type where
  | definition : CacheSetting String
  | templateName : CacheSetting String
  | nearCacheMode : CacheSetting NearCacheMode
  | nearCacheMaxEntries : CacheSetting Int64
  | bloomFilter : CacheSetting Bool

def CacheDraft.value? {α : Type} (draft : CacheDraft) : CacheSetting α → Option α
  | .definition => draft.definition
  | .templateName => draft.templateName
  | .nearCacheMode => draft.nearCacheMode
  | .nearCacheMaxEntries => draft.nearCacheMaxEntries
  | .bloomFilter => draft.bloomFilter

/-- A value, a text that stands for one, or a file with such a text. -/
inductive CacheSource (α : Type) where
  | value (value : α)
  | text (text : String)
  | file (path : String)
  deriving DecidableEq, Repr

def CacheOverrides.sources {α : Type} (settings : RuntimeSettings) (overrides : CacheOverrides) :
    CacheSetting α → List (Option (CacheSource α))
  | .definition =>
    [overrides.definitionFile.map fun file => .file (settings.resolve file),
      overrides.definition.map .value]
  | .templateName => []
  | .nearCacheMode => [overrides.nearCacheMode.map .value]
  | .nearCacheMaxEntries => [overrides.nearCacheMaxEntries.map .value]
  | .bloomFilter => [overrides.bloomFilter.map .value]

/-- The text of a cache's key in a bag. A cache without a name has no keys. -/
def Properties.cacheText? (bag : Properties) (cache : String) (key : CacheKey) : Option String :=
  if cache = "" then none else bag[(PropertyKey.cache cache key).text]?

namespace CacheSetting
variable {α : Type}

def read : CacheSetting α → String → Except ValueFault α
  | definition | templateName => .ok
  | nearCacheMode => NearCacheMode.read
  | nearCacheMaxEntries => readNumber Text.readInt64
  | bloomFilter => readFlag

/-- The keys of a setting, from the highest rank in a bag to the lowest, and what their texts are. -/
def readings : CacheSetting α → List (CacheKey × (String → CacheSource α))
  | definition => [(.configurationUri, .file), (.configuration, .text)]
  | templateName => [(.templateName, .text)]
  | nearCacheMode => [(.nearCacheMode, .text)]
  | nearCacheMaxEntries => [(.nearCacheMaxEntries, .text)]
  | bloomFilter => [(.bloomFilter, .text)]

def bagSources (setting : CacheSetting α) (bag : Properties) (cache : String) :
    List (Option (CacheSource α)) :=
  setting.readings.map fun (key, source) => (bag.cacheText? cache key).map source

def propertySource? (setting : CacheSetting α) (cache : String) (property : String × String) :
    Option (CacheSource α) :=
  if cache = "" then none
  else setting.readings.findSome? fun (key, source) =>
    if property.1 = (PropertyKey.cache cache key).text then some (source property.2) else none

/-- What a list of properties gives for a setting of a cache: the last one that gives anything. -/
def lastSource? (setting : CacheSetting α) (cache : String) (properties : List (String × String)) :
    Option (CacheSource α) :=
  (properties.filterMap (setting.propertySource? cache)).getLast?

def sources (setting : CacheSetting α) (settings : RuntimeSettings)
    (runtime? : Option RuntimeSection) (bag : Properties) (uri? : Option HotRodUri) (cache : String) :
    List (Option (CacheSource α)) :=
  (runtime?.bind (·.caches[cache]?)).elim [] (·.sources settings setting) ++
    setting.bagSources bag cache ++
    [uri?.bind fun uri => setting.lastSource? cache uri.properties]

def decisive? (setting : CacheSetting α) (settings : RuntimeSettings)
    (runtime? : Option RuntimeSection) (bag : Properties) (uri? : Option HotRodUri) (cache : String) :
    Option (CacheSource α) :=
  (setting.sources settings runtime? bag uri? cache).findSome? id

def resolve (files : Files) (setting : CacheSetting α) : CacheSource α → Except CacheFault α
  | .value value => .ok value
  | .text text => (setting.read text).mapError .value
  | .file path => do
    let text ← (files.read path).mapError .file
    (setting.read text).mapError .value

end CacheSetting

/-- A cache is named where a section has overrides for it, or a bag or a query has one of its keys. -/
def NamesCache (runtime? : Option RuntimeSection) (bag : Properties) (uri? : Option HotRodUri)
    (cache : String) : Prop :=
  (∃ runtime, runtime? = some runtime ∧ cache ∈ runtime.caches) ∨
    cache ≠ "" ∧ ∃ key : CacheKey, (PropertyKey.cache cache key).text ∈ bag ∨
      ∃ uri, uri? = some uri ∧ (PropertyKey.cache cache key).text ∈ uri.properties.map Prod.fst

end HotRod
