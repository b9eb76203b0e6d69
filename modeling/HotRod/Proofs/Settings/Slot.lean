import HotRod.Settings.Document
set_option autoImplicit false

/-!
# What entries of a settings file set

An entry with a known key sets one slot: a field of a runtime section, a field of the overrides for a
cache, a property of a client, or the flag for all clients. Each slot has values of its own type, a
reading of texts as such values, and a default. The section and the key of an entry determine its
slot, and the slot determines them.
-/

namespace HotRod

namespace RuntimeKey

def Value : RuntimeKey → Type
  | useAuth => Option Bool
  | tlsCiphers => List String
  | clientIntelligence => Option ClientIntelligence
  | tracingPropagation => Bool
  | uri | hosts | serverList | username | authUsername | password | authPassword | authRealm
  | authServerName | authClientSubject | authCallbackHandler | saslMechanism | trustStore
  | trustStorePassword | trustStoreType | tlsProvider | tlsProtocol => Option String

def read : (key : RuntimeKey) → String → Except RefusedValue key.Value
  | useAuth, text => (readSettingFlag text).map some
  | tlsCiphers, text => .ok (readCiphers text)
  | clientIntelligence, text => (readSetting ClientIntelligence.read text).map some
  | tracingPropagation, text => readSettingFlag text
  | uri, text | hosts, text | serverList, text | username, text | authUsername, text
  | password, text | authPassword, text | authRealm, text | authServerName, text
  | authClientSubject, text | authCallbackHandler, text | saslMechanism, text | trustStore, text
  | trustStorePassword, text | trustStoreType, text | tlsProvider, text
  | tlsProtocol, text => .ok (some text)

def default : (key : RuntimeKey) → key.Value
  | tlsCiphers => []
  | tracingPropagation => true
  | useAuth => (none : Option Bool)
  | clientIntelligence => (none : Option ClientIntelligence)
  | uri | hosts | serverList | username | authUsername | password | authPassword | authRealm
  | authServerName | authClientSubject | authCallbackHandler | saslMechanism | trustStore
  | trustStorePassword | trustStoreType | tlsProvider | tlsProtocol => (none : Option String)

end RuntimeKey

namespace RuntimeSection

def field (runtime : RuntimeSection) : (key : RuntimeKey) → key.Value
  | .uri => runtime.uri
  | .hosts => runtime.hosts
  | .serverList => runtime.serverList
  | .username => runtime.username
  | .authUsername => runtime.authUsername
  | .password => runtime.password
  | .authPassword => runtime.authPassword
  | .useAuth => runtime.useAuth
  | .authRealm => runtime.authRealm
  | .authServerName => runtime.authServerName
  | .authClientSubject => runtime.authClientSubject
  | .authCallbackHandler => runtime.authCallbackHandler
  | .saslMechanism => runtime.saslMechanism
  | .trustStore => runtime.trustStore
  | .trustStorePassword => runtime.trustStorePassword
  | .trustStoreType => runtime.trustStoreType
  | .tlsProvider => runtime.tlsProvider
  | .tlsProtocol => runtime.tlsProtocol
  | .tlsCiphers => runtime.tlsCiphers
  | .clientIntelligence => runtime.clientIntelligence
  | .tracingPropagation => runtime.tracingPropagation

def put (runtime : RuntimeSection) : (key : RuntimeKey) → key.Value → RuntimeSection
  | .uri, value => { runtime with uri := value }
  | .hosts, value => { runtime with hosts := value }
  | .serverList, value => { runtime with serverList := value }
  | .username, value => { runtime with username := value }
  | .authUsername, value => { runtime with authUsername := value }
  | .password, value => { runtime with password := value }
  | .authPassword, value => { runtime with authPassword := value }
  | .useAuth, value => { runtime with useAuth := value }
  | .authRealm, value => { runtime with authRealm := value }
  | .authServerName, value => { runtime with authServerName := value }
  | .authClientSubject, value => { runtime with authClientSubject := value }
  | .authCallbackHandler, value => { runtime with authCallbackHandler := value }
  | .saslMechanism, value => { runtime with saslMechanism := value }
  | .trustStore, value => { runtime with trustStore := value }
  | .trustStorePassword, value => { runtime with trustStorePassword := value }
  | .trustStoreType, value => { runtime with trustStoreType := value }
  | .tlsProvider, value => { runtime with tlsProvider := value }
  | .tlsProtocol, value => { runtime with tlsProtocol := value }
  | .tlsCiphers, value => { runtime with tlsCiphers := value }
  | .clientIntelligence, value => { runtime with clientIntelligence := value }
  | .tracingPropagation, value => { runtime with tracingPropagation := value }

theorem field_empty (key : RuntimeKey) : ({} : RuntimeSection).field key = key.default := by
  cases key <;> rfl

theorem field_setCaches (runtime : RuntimeSection) (caches : KeyMap CacheOverrides)
    (key : RuntimeKey) : { runtime with caches }.field key = runtime.field key := by
  cases key <;> rfl

theorem field_put (runtime : RuntimeSection) (key : RuntimeKey) (value : key.Value) :
    (runtime.put key value).field key = value := by
  cases key <;> rfl

theorem field_put_of_ne {key other : RuntimeKey} (different : other ≠ key) (runtime : RuntimeSection)
    (value : key.Value) : (runtime.put key value).field other = runtime.field other := by
  cases key <;> cases other <;> first | rfl | contradiction

theorem caches_put (runtime : RuntimeSection) (key : RuntimeKey) (value : key.Value) :
    (runtime.put key value).caches = runtime.caches := by
  cases key <;> rfl

/-- A text sets the field of a key to the value that it is read as. -/
theorem set_eq (runtime : RuntimeSection) (text : String) (key : RuntimeKey) :
    runtime.set text key = (key.read text).map (runtime.put key) := by
  cases key with
  | useAuth =>
    simp only [set, RuntimeKey.read]
    cases readSettingFlag text <;> rfl
  | clientIntelligence =>
    simp only [set, RuntimeKey.read]
    cases readSetting ClientIntelligence.read text <;> rfl
  | _ => rfl

theorem eq_of_field {runtime other : RuntimeSection}
    (fields : ∀ key, runtime.field key = other.field key) (caches : runtime.caches = other.caches) :
    runtime = other := by
  cases runtime
  cases other
  obtain rfl := caches
  congr
  · exact fields .uri
  · exact fields .hosts
  · exact fields .serverList
  · exact fields .username
  · exact fields .authUsername
  · exact fields .password
  · exact fields .authPassword
  · exact fields .useAuth
  · exact fields .authRealm
  · exact fields .authServerName
  · exact fields .authClientSubject
  · exact fields .authCallbackHandler
  · exact fields .saslMechanism
  · exact fields .trustStore
  · exact fields .trustStorePassword
  · exact fields .trustStoreType
  · exact fields .tlsProvider
  · exact fields .tlsProtocol
  · exact fields .tlsCiphers
  · exact fields .clientIntelligence
  · exact fields .tracingPropagation

end RuntimeSection

namespace OverrideKey

def Value : OverrideKey → Type
  | nearCacheMaxEntries => Option Int64
  | nearCacheMode => Option NearCacheMode
  | bloomFilter => Option Bool
  | definitionFile | definition => Option String

def read : (key : OverrideKey) → String → Except RefusedValue key.Value
  | nearCacheMaxEntries, text => (readSetting (readNumber Text.readInt64) text).map some
  | nearCacheMode, text => (readSetting NearCacheMode.read text).map some
  | bloomFilter, text => (readSettingFlag text).map some
  | definitionFile, text | definition, text => .ok (some text)

def default : (key : OverrideKey) → key.Value
  | nearCacheMaxEntries => (none : Option Int64)
  | nearCacheMode => (none : Option NearCacheMode)
  | bloomFilter => (none : Option Bool)
  | definitionFile | definition => (none : Option String)

end OverrideKey

namespace CacheOverrides

def field (overrides : CacheOverrides) : (key : OverrideKey) → key.Value
  | .definitionFile => overrides.definitionFile
  | .definition => overrides.definition
  | .nearCacheMaxEntries => overrides.nearCacheMaxEntries
  | .nearCacheMode => overrides.nearCacheMode
  | .bloomFilter => overrides.bloomFilter

def put (overrides : CacheOverrides) : (key : OverrideKey) → key.Value → CacheOverrides
  | .definitionFile, value => { overrides with definitionFile := value }
  | .definition, value => { overrides with definition := value }
  | .nearCacheMaxEntries, value => { overrides with nearCacheMaxEntries := value }
  | .nearCacheMode, value => { overrides with nearCacheMode := value }
  | .bloomFilter, value => { overrides with bloomFilter := value }

theorem field_empty (key : OverrideKey) : ({} : CacheOverrides).field key = key.default := by
  cases key <;> rfl

theorem field_put (overrides : CacheOverrides) (key : OverrideKey) (value : key.Value) :
    (overrides.put key value).field key = value := by
  cases key <;> rfl

theorem field_put_of_ne {key other : OverrideKey} (different : other ≠ key)
    (overrides : CacheOverrides) (value : key.Value) :
    (overrides.put key value).field other = overrides.field other := by
  cases key <;> cases other <;> first | rfl | contradiction

theorem set_eq (overrides : CacheOverrides) (text : String) (key : OverrideKey) :
    overrides.set text key = (key.read text).map (overrides.put key) := by
  cases key with
  | definitionFile | definition => rfl
  | nearCacheMaxEntries =>
    simp only [set, OverrideKey.read]
    cases readSetting (readNumber Text.readInt64) text <;> rfl
  | nearCacheMode =>
    simp only [set, OverrideKey.read]
    cases readSetting NearCacheMode.read text <;> rfl
  | bloomFilter =>
    simp only [set, OverrideKey.read]
    cases readSettingFlag text <;> rfl

theorem eq_of_field {overrides other : CacheOverrides}
    (fields : ∀ key, overrides.field key = other.field key) : overrides = other := by
  cases overrides
  cases other
  congr
  · exact fields .definitionFile
  · exact fields .definition
  · exact fields .nearCacheMaxEntries
  · exact fields .nearCacheMode
  · exact fields .bloomFilter

end CacheOverrides

/-- What an entry can set. -/
inductive Slot where
  | schemaRegistration
  | runtime (client : String) (key : RuntimeKey)
  | override (client cache : String) (key : OverrideKey)
  | property (client key : String)
  deriving DecidableEq

namespace Slot

def Value : Slot → Type
  | schemaRegistration => Option Bool
  | runtime _ key => key.Value
  | override _ _ key => key.Value
  | property _ _ => Option String

def target : Slot → SectionTarget
  | schemaRegistration => .runtime defaultClient
  | runtime client _ => .runtime client
  | override client cache _ => .cache client cache
  | property client _ => .properties client

def text : Slot → String
  | schemaRegistration => schemaRegistrationKey
  | runtime _ key => key.text
  | override _ _ key => key.text
  | property _ key => key

def read : (slot : Slot) → String → Except RefusedValue slot.Value
  | schemaRegistration, value => (readSettingFlag value).map some
  | runtime _ key, value => key.read value
  | override _ _ key, value => key.read value
  | property _ _, value => .ok (some value)

def default : (slot : Slot) → slot.Value
  | schemaRegistration => (none : Option Bool)
  | runtime _ key => key.default
  | override _ _ key => key.default
  | property _ _ => (none : Option String)

def settle (slot : Slot) : Option String → Except RefusedValue slot.Value
  | none => .ok slot.default
  | some text => slot.read text

end Slot

/-- The slot that an entry of a section sets, if its key is known. -/
def SectionTarget.slot? : SectionTarget → String → Option Slot
  | .runtime client, key =>
    if key = schemaRegistrationKey ∧ client = defaultClient then some .schemaRegistration
    else (RuntimeKey.ofText? key).map (.runtime client)
  | .cache client name, key => (OverrideKey.ofText? key).map (.override client name)
  | .properties client, key => some (.property client key)

theorem RuntimeKey.text_ne_schemaRegistrationKey (key : RuntimeKey) :
    key.text ≠ schemaRegistrationKey := by
  cases key <;> decide

theorem SectionTarget.slot?_eq_some_iff {target : SectionTarget} {key : String} {slot : Slot} :
    target.slot? key = some slot ↔ target = slot.target ∧ key = slot.text := by
  constructor
  · intro known
    cases target with
    | properties client =>
      cases known
      exact ⟨rfl, rfl⟩
    | cache client name =>
      obtain ⟨found, named, rfl⟩ := Option.map_eq_some_iff.mp known
      exact ⟨rfl, OverrideKey.ofText?_eq_some_iff.mp named⟩
    | runtime client =>
      simp only [slot?] at known
      split at known
      · next global =>
        cases known
        exact ⟨congrArg runtime global.2, global.1⟩
      · obtain ⟨found, named, rfl⟩ := Option.map_eq_some_iff.mp known
        exact ⟨rfl, RuntimeKey.ofText?_eq_some_iff.mp named⟩
  · rintro ⟨rfl, rfl⟩
    cases slot with
    | schemaRegistration => simp [slot?, Slot.target, Slot.text]
    | property client key => rfl
    | override client name key =>
      exact Option.map_eq_some_iff.mpr ⟨key, OverrideKey.ofText?_eq_some_iff.mpr rfl, rfl⟩
    | runtime client key =>
      refine (if_neg fun global => key.text_ne_schemaRegistrationKey global.1).trans ?_
      exact Option.map_eq_some_iff.mpr ⟨key, RuntimeKey.ofText?_eq_some_iff.mpr rfl, rfl⟩

end HotRod
