import HotRod.Client.Assembly
import HotRod.Proofs.KeyMap
import HotRod.Proofs.Text.Split
set_option autoImplicit false

/-!
# Settings of a whole client and their sources

A setting of a whole client has a typed value in a draft and six sources: two fields of the runtime
section, of which the second is deprecated, the client's own properties, the query of a URI, its other
parts, and a default. The source of the highest rank that is there decides. Servers and the marshaller
are no settings in this sense.
-/

namespace HotRod

/-- The settings of a whole client, by the type of their values. -/
inductive Setting : Type → Type where
  | username : Setting String
  | password : Setting String
  | useAuth : Setting Bool
  | realm : Setting String
  | serverName : Setting String
  | clientSubject : Setting String
  | callbackHandler : Setting String
  | mechanism : Setting String
  | useTls : Setting Bool
  | sniHostName : Setting String
  | trustStoreFile : Setting String
  | trustStorePassword : Setting String
  | trustStoreType : Setting String
  | tlsProvider : Setting String
  | tlsProtocol : Setting String
  | tlsCiphers : Setting (List String)
  | intelligence : Setting ClientIntelligence
  | tracingPropagation : Setting Bool
  | connectTimeout : Setting UInt64
  | socketTimeout : Setting UInt64
  | maxRetries : Setting UInt32
  | tcpNoDelay : Setting Bool
  | tcpKeepAlive : Setting Bool

namespace Setting
variable {α : Type}

def key : Setting α → ClientKey
  | username => .authUsername
  | password => .authPassword
  | useAuth => .useAuth
  | realm => .authRealm
  | serverName => .authServerName
  | clientSubject => .authClientSubject
  | callbackHandler => .authCallbackHandler
  | mechanism => .saslMechanism
  | useTls => .useTls
  | sniHostName => .sniHostName
  | trustStoreFile => .trustStoreFile
  | trustStorePassword => .trustStorePassword
  | trustStoreType => .trustStoreType
  | tlsProvider => .tlsProvider
  | tlsProtocol => .tlsProtocol
  | tlsCiphers => .tlsCiphers
  | intelligence => .clientIntelligence
  | tracingPropagation => .tracingPropagation
  | connectTimeout => .connectTimeout
  | socketTimeout => .socketTimeout
  | maxRetries => .maxRetries
  | tcpNoDelay => .tcpNoDelay
  | tcpKeepAlive => .tcpKeepAlive

def read : Setting α → String → Except ValueFault α
  | useAuth | useTls | tracingPropagation | tcpNoDelay | tcpKeepAlive => readFlag
  | intelligence => ClientIntelligence.read
  | connectTimeout | socketTimeout => readNumber Text.readUInt64
  | maxRetries => readNumber Text.readUInt32
  | tlsCiphers => fun text => .ok ((Text.words text.toList).map String.ofList)
  | username | password | realm | serverName | clientSubject | callbackHandler | mechanism
  | sniHostName | trustStoreFile | trustStorePassword | trustStoreType | tlsProvider
  | tlsProtocol => .ok

def default? : Setting α → Option α
  | intelligence => some .hashDistributionAware
  | tracingPropagation | tcpNoDelay => some true
  | tcpKeepAlive => some false
  | connectTimeout | socketTimeout => some 2000
  | maxRetries => some 3
  | tlsCiphers => some []
  | _ => none

end Setting

def Draft.value? {α : Type} (draft : Draft) : Setting α → Option α
  | .username => draft.authentication.username
  | .password => draft.authentication.password
  | .useAuth => draft.authentication.enabled
  | .realm => draft.authentication.realm
  | .serverName => draft.authentication.serverName
  | .clientSubject => draft.authentication.clientSubject
  | .callbackHandler => draft.authentication.callbackHandler
  | .mechanism => draft.authentication.mechanism
  | .useTls => draft.tls.enabled
  | .sniHostName => draft.tls.sniHostName
  | .trustStoreFile => draft.tls.trustStoreFile
  | .trustStorePassword => draft.tls.trustStorePassword
  | .trustStoreType => draft.tls.trustStoreType
  | .tlsProvider => draft.tls.provider
  | .tlsProtocol => draft.tls.protocol
  | .tlsCiphers => some draft.tls.ciphers
  | .intelligence => some draft.intelligence
  | .tracingPropagation => some draft.tracingPropagation
  | .connectTimeout => some draft.connectTimeout
  | .socketTimeout => some draft.socketTimeout
  | .maxRetries => some draft.maxRetries
  | .tcpNoDelay => some draft.tcpNoDelay
  | .tcpKeepAlive => some draft.tcpKeepAlive

/-- The field of a runtime section for a setting. No ciphers is the same as none named. -/
def RuntimeSection.value? {α : Type} (runtime : RuntimeSection) : Setting α → Option α
  | .username => runtime.username
  | .password => runtime.password
  | .useAuth => runtime.useAuth
  | .realm => runtime.authRealm
  | .serverName => runtime.authServerName
  | .clientSubject => runtime.authClientSubject
  | .callbackHandler => runtime.authCallbackHandler
  | .mechanism => runtime.saslMechanism
  | .trustStoreFile => runtime.trustStore
  | .trustStorePassword => runtime.trustStorePassword
  | .trustStoreType => runtime.trustStoreType
  | .tlsProvider => runtime.tlsProvider
  | .tlsProtocol => runtime.tlsProtocol
  | .tlsCiphers => if runtime.tlsCiphers.isEmpty then none else some runtime.tlsCiphers
  | .intelligence => runtime.clientIntelligence
  | .tracingPropagation => some runtime.tracingPropagation
  | _ => none

def RuntimeSection.deprecated? {α : Type} (runtime : RuntimeSection) : Setting α → Option α
  | .username => runtime.authUsername
  | .password => runtime.authPassword
  | _ => none

def HotRodUri.value? {α : Type} (uri : HotRodUri) : Setting α → Option α
  | .username => uri.username
  | .password => uri.password
  | .useTls => if uri.tls then some true else none
  | _ => none

/-- A value, or a text that stands for one. -/
inductive Source (α : Type) where
  | value (value : α)
  | text (text : String)
  deriving DecidableEq, Repr

namespace Setting
variable {α : Type}

/-- The sources of a setting, from the highest rank to the lowest. -/
def sources (setting : Setting α) (runtime? : Option RuntimeSection) (bag : Properties)
    (uri? : Option HotRodUri) : List (Option (Source α)) :=
  [(runtime?.bind (·.value? setting)).map .value,
    (runtime?.bind (·.deprecated? setting)).map .value,
    bag[setting.key.text]?.map .text,
    (uri?.bind fun uri => lastValue? setting.key.text uri.properties).map .text,
    (uri?.bind (·.value? setting)).map .value,
    setting.default?.map .value]

/-- The source that decides: the first that is there. -/
def decisive? (setting : Setting α) (runtime? : Option RuntimeSection) (bag : Properties)
    (uri? : Option HotRodUri) : Option (Source α) :=
  (setting.sources runtime? bag uri?).findSome? id

def resolve (setting : Setting α) : Source α → Except ValueFault α
  | .value value => .ok value
  | .text text => setting.read text

end Setting

end HotRod
