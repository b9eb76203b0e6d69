import HotRod.Client.Runtime
set_option autoImplicit false

/-!
# Keys of settings files

The keys that stand in the sections of a settings file, and how their values set the fields of a
runtime section or of its overrides for a cache. A flag is read in lower case; a refused value is kept
as it was read.
-/

namespace HotRod

/-- A value that does not suit its key. -/
structure RefusedValue where
  value : String
  fault : ValueFault
  deriving DecidableEq, Repr

/-- Read a flag that is spelled in full, in any case. -/
def readSettingFlag (value : String) : Except RefusedValue Bool :=
  let lower := value.toList.map Char.toLower
  match Text.readFlag? (Text.trim lower) with
  | some flag => .ok flag
  | none => .error ⟨.ofList lower, .notTrueOrFalse⟩

/-- Read a value, which is kept if it is refused. -/
def readSetting {α : Type} (reader : String → Except ValueFault α) (value : String) :
    Except RefusedValue α :=
  (reader value).mapError (RefusedValue.mk value)

/-- The keys of runtime settings. -/
inductive RuntimeKey where
  | uri
  | hosts
  | serverList
  | username
  | authUsername
  | password
  | authPassword
  | useAuth
  | authRealm
  | authServerName
  | authClientSubject
  | authCallbackHandler
  | saslMechanism
  | trustStore
  | trustStorePassword
  | trustStoreType
  | tlsProvider
  | tlsProtocol
  | tlsCiphers
  | clientIntelligence
  | tracingPropagation
  deriving DecidableEq, Repr

namespace RuntimeKey

def all : List RuntimeKey :=
  [uri, hosts, serverList, username, authUsername, password, authPassword, useAuth, authRealm,
    authServerName, authClientSubject, authCallbackHandler, saslMechanism, trustStore,
    trustStorePassword, trustStoreType, tlsProvider, tlsProtocol, tlsCiphers, clientIntelligence,
    tracingPropagation]

def text : RuntimeKey → String
  | uri => "uri"
  | hosts => "hosts"
  | serverList => "server-list"
  | username => "username"
  | authUsername => "auth-username"
  | password => "password"
  | authPassword => "auth-password"
  | useAuth => "use-auth"
  | authRealm => "auth-realm"
  | authServerName => "auth-server-name"
  | authClientSubject => "auth-client-subject"
  | authCallbackHandler => "auth-callback-handler"
  | saslMechanism => "sasl-mechanism"
  | trustStore => "trust-store"
  | trustStorePassword => "trust-store-password"
  | trustStoreType => "trust-store-type"
  | tlsProvider => "ssl-provider"
  | tlsProtocol => "ssl-protocol"
  | tlsCiphers => "ssl-ciphers"
  | clientIntelligence => "client-intelligence"
  | tracingPropagation => "tracing-propagation-enabled"

def ofText? (key : String) : Option RuntimeKey := all.find? fun candidate => candidate.text = key

theorem mem_all (key : RuntimeKey) : key ∈ all := by cases key <;> decide

theorem ofText?_eq_some_iff {key : String} {found : RuntimeKey} :
    ofText? key = some found ↔ key = found.text := by
  constructor
  · intro h
    unfold ofText? at h
    have matched := List.find?_some h
    simp only [decide_eq_true_eq] at matched
    exact matched.symm
  · rintro rfl
    cases found <;> decide

end RuntimeKey

def readCiphers (value : String) : List String :=
  ((value.toList.splitOnP fun c => c == ',' || Text.isBlank c).filter (!·.isEmpty)).map String.ofList

def RuntimeSection.set (runtime : RuntimeSection) (value : String) :
    RuntimeKey → Except RefusedValue RuntimeSection
  | .uri => .ok { runtime with uri := some value }
  | .hosts => .ok { runtime with hosts := some value }
  | .serverList => .ok { runtime with serverList := some value }
  | .username => .ok { runtime with username := some value }
  | .authUsername => .ok { runtime with authUsername := some value }
  | .password => .ok { runtime with password := some value }
  | .authPassword => .ok { runtime with authPassword := some value }
  | .useAuth => (readSettingFlag value).map fun flag => { runtime with useAuth := some flag }
  | .authRealm => .ok { runtime with authRealm := some value }
  | .authServerName => .ok { runtime with authServerName := some value }
  | .authClientSubject => .ok { runtime with authClientSubject := some value }
  | .authCallbackHandler => .ok { runtime with authCallbackHandler := some value }
  | .saslMechanism => .ok { runtime with saslMechanism := some value }
  | .trustStore => .ok { runtime with trustStore := some value }
  | .trustStorePassword => .ok { runtime with trustStorePassword := some value }
  | .trustStoreType => .ok { runtime with trustStoreType := some value }
  | .tlsProvider => .ok { runtime with tlsProvider := some value }
  | .tlsProtocol => .ok { runtime with tlsProtocol := some value }
  | .tlsCiphers => .ok { runtime with tlsCiphers := readCiphers value }
  | .clientIntelligence =>
    (readSetting ClientIntelligence.read value).map fun intelligence =>
      { runtime with clientIntelligence := some intelligence }
  | .tracingPropagation =>
    (readSettingFlag value).map fun flag => { runtime with tracingPropagation := flag }

/-- The keys of the overrides for a cache. -/
inductive OverrideKey where
  | definitionFile
  | definition
  | nearCacheMaxEntries
  | nearCacheMode
  | bloomFilter
  deriving DecidableEq, Repr

namespace OverrideKey

def all : List OverrideKey :=
  [definitionFile, definition, nearCacheMaxEntries, nearCacheMode, bloomFilter]

def text : OverrideKey → String
  | definitionFile => "configuration-uri"
  | definition => "configuration"
  | nearCacheMaxEntries => "near-cache-max-entries"
  | nearCacheMode => "near-cache-mode"
  | bloomFilter => "near-cache-use-bloom-filter"

def ofText? (key : String) : Option OverrideKey := all.find? fun candidate => candidate.text = key

theorem mem_all (key : OverrideKey) : key ∈ all := by cases key <;> decide

theorem ofText?_eq_some_iff {key : String} {found : OverrideKey} :
    ofText? key = some found ↔ key = found.text := by
  constructor
  · intro h
    unfold ofText? at h
    have matched := List.find?_some h
    simp only [decide_eq_true_eq] at matched
    exact matched.symm
  · rintro rfl
    cases found <;> decide

end OverrideKey

def CacheOverrides.set (overrides : CacheOverrides) (value : String) :
    OverrideKey → Except RefusedValue CacheOverrides
  | .definitionFile => .ok { overrides with definitionFile := some value }
  | .definition => .ok { overrides with definition := some value }
  | .nearCacheMaxEntries =>
    (readSetting (readNumber Text.readInt64) value).map fun entries =>
      { overrides with nearCacheMaxEntries := some entries }
  | .nearCacheMode =>
    (readSetting NearCacheMode.read value).map fun mode =>
      { overrides with nearCacheMode := some mode }
  | .bloomFilter =>
    (readSettingFlag value).map fun flag => { overrides with bloomFilter := some flag }

end HotRod
