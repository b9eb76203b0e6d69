import HotRod.Configuration.Draft
import HotRod.Server.Uri
set_option autoImplicit false

/-!
# Applying properties

A property with a known key changes one setting of a draft; any other key changes nothing. A URI
brings servers, credentials and the properties of its query. A bag is applied with its URI first, or
else its server list, and then its other keys in order. When a value does not suit its key, what was
applied before stays.
-/

namespace HotRod

/-- The marshaller that a name stands for: any name that mentions it, in any case. -/
def marshallerNamed (name : String) : Except ValueFault MarshallerKind :=
  let lower := name.toList.map Char.toLower
  if (Text.splitFirst? "protostream".toList lower).isSome then .ok .protoStream
  else if (Text.splitFirst? "utf8".toList lower).isSome then .ok .utf8
  else .error .unknownMarshaller

namespace Draft

def setAuthentication (change : AuthenticationDraft → AuthenticationDraft) (draft : Draft) : Draft :=
  { draft with authentication := change draft.authentication }

def setTls (change : TlsDraft → TlsDraft) (draft : Draft) : Draft :=
  { draft with tls := change draft.tls }

/-- Give a setting of the whole client a value. Servers are not set this way, and a marshaller only
when there is none. -/
def setClient (value : String) (draft : Draft) : ClientKey → Except ValueFault Draft
  | .uri | .serverList => .ok draft
  | .marshaller =>
    if draft.marshaller.isSome then .ok draft
    else (marshallerNamed value).map fun kind => { draft with marshaller := some kind }
  | .clientIntelligence =>
    (ClientIntelligence.read value).map fun intelligence => { draft with intelligence }
  | .tracingPropagation =>
    (readFlag value).map fun enabled => { draft with tracingPropagation := enabled }
  | .useAuth =>
    (readFlag value).map fun enabled => draft.setAuthentication ({ · with enabled := some enabled })
  | .authUsername => .ok (draft.setAuthentication ({ · with username := some value }))
  | .authPassword => .ok (draft.setAuthentication ({ · with password := some value }))
  | .authRealm => .ok (draft.setAuthentication ({ · with realm := some value }))
  | .authServerName => .ok (draft.setAuthentication ({ · with serverName := some value }))
  | .authClientSubject => .ok (draft.setAuthentication ({ · with clientSubject := some value }))
  | .authCallbackHandler => .ok (draft.setAuthentication ({ · with callbackHandler := some value }))
  | .saslMechanism => .ok (draft.setAuthentication ({ · with mechanism := some value }))
  | .useTls => (readFlag value).map fun enabled => draft.setTls ({ · with enabled := some enabled })
  | .sniHostName => .ok (draft.setTls ({ · with sniHostName := some value }))
  | .trustStoreFile => .ok (draft.setTls ({ · with trustStoreFile := some value }))
  | .trustStorePassword => .ok (draft.setTls ({ · with trustStorePassword := some value }))
  | .trustStoreType => .ok (draft.setTls ({ · with trustStoreType := some value }))
  | .tlsProvider => .ok (draft.setTls ({ · with provider := some value }))
  | .tlsProtocol => .ok (draft.setTls ({ · with protocol := some value }))
  | .tlsCiphers =>
    .ok (draft.setTls ({ · with ciphers := (Text.words value.toList).map String.ofList }))
  | .connectTimeout =>
    (readNumber Text.readUInt64 value).map fun timeout => { draft with connectTimeout := timeout }
  | .socketTimeout =>
    (readNumber Text.readUInt64 value).map fun timeout => { draft with socketTimeout := timeout }
  | .maxRetries =>
    (readNumber Text.readUInt32 value).map fun retries => { draft with maxRetries := retries }
  | .tcpNoDelay => (readFlag value).map fun enabled => { draft with tcpNoDelay := enabled }
  | .tcpKeepAlive => (readFlag value).map fun enabled => { draft with tcpKeepAlive := enabled }

end Draft

/-- Why a setting of a cache does not take a value. -/
inductive CacheFault where
  | value (fault : ValueFault)
  | file (fault : FileFault)
  deriving DecidableEq, Repr

/-- The error of a cache setting, given its whole key. -/
def CacheFault.toClientError (key cache value : String) : CacheFault → ClientError
  | .value fault => .invalidProperty key value fault
  | .file fault => .cacheConfigurationResource cache value fault

def CacheDraft.set (files : Files) (value : String) (draft : CacheDraft) :
    CacheKey → Except CacheFault CacheDraft
  | .configurationUri => (draft.readDefinition files value).mapError .file
  | .configuration => .ok { draft with definition := some value }
  | .templateName => .ok { draft with templateName := some value }
  | .nearCacheMode =>
    ((NearCacheMode.read value).map fun mode => { draft with nearCacheMode := some mode }).mapError
      .value
  | .nearCacheMaxEntries =>
    ((readNumber Text.readInt64 value).map fun entries =>
      { draft with nearCacheMaxEntries := some entries }).mapError .value
  | .bloomFilter =>
    ((readFlag value).map fun enabled => { draft with bloomFilter := some enabled }).mapError .value

namespace Draft

/-- Apply one property. The cache that a key names is there afterwards even if its value is refused. -/
def applyProperty (files : Files) (key value : String) : Action Draft ClientError Unit := fun draft =>
  match PropertyKey.ofText? key with
  | none => ⟨draft, [], .ok ()⟩
  | some (.client setting) =>
    match draft.setClient value setting with
    | .ok changed => ⟨changed, [], .ok ()⟩
    | .error fault => ⟨draft, [], .error (.invalidProperty key value fault)⟩
  | some (.cache name setting) =>
    match (draft.cache name).set files value setting with
    | .ok cache => ⟨draft.setCache name cache, [], .ok ()⟩
    | .error fault => ⟨draft.touchCache name, [], .error (fault.toClientError key name value)⟩

def applyProperties (files : Files) (properties : List (String × String)) :
    Action Draft ClientError Unit :=
  Action.forEach properties fun (key, value) => applyProperty files key value

/-- What a URI sets beside its query: the servers, TLS and credentials. -/
def setEndpoint (uri : HotRodUri) (draft : Draft) : Draft :=
  { draft with
    servers := uri.servers
    tls := if uri.tls then { draft.tls with enabled := some true } else draft.tls
    authentication := { draft.authentication with
      username := uri.username.or draft.authentication.username
      password := uri.password.or draft.authentication.password } }

/-- Apply a URI: its servers replace those so far, and its query is applied last. -/
def applyUri (files : Files) (uri : String) : Action Draft ClientError Unit := do
  let parsed ← Action.ofExcept (HotRodUri.parse uri)
  Action.modify (setEndpoint parsed)
  applyProperties files parsed.properties

/-- Apply the servers that a bag names, by a URI or else by a server list. -/
def applyEndpoint (files : Files) (bag : Properties) : Action Draft ClientError Unit :=
  match bag[ClientKey.uri.text]? with
  | some uri => applyUri files uri
  | none =>
    match bag[ClientKey.serverList.text]? with
    | some list => do
      let servers ← Action.ofExcept (parseServerList list)
      Action.modify ({ · with servers })
    | none => pure ()

def keepProperties (bag : Properties) (draft : Draft) : Draft :=
  { draft with properties := draft.properties.extend bag.toList }

/-- Apply a bag, which is kept once all of it is applied. -/
def applyBag (files : Files) (bag : Properties) : Action Draft ClientError Unit := do
  applyEndpoint files bag
  applyProperties files bag.toList
  Action.modify (keepProperties bag)

end Draft

end HotRod
