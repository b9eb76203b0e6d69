import HotRod.Text.Split
set_option autoImplicit false

/-!
# Property keys

Clients are configured by properties, whose keys are texts below one prefix. Some keys are for the
whole client; keys below the cache prefix name a cache and one of its settings,
`infinispan.client.hotrod.cache.<name>.<setting>`, where the name may itself hold dots; keys below the
schema prefix carry schema files. All other keys mean nothing.
-/

namespace HotRod

def propertyPrefix : String := "infinispan.client.hotrod."

def cachePrefix : String := "infinispan.client.hotrod.cache."

def schemaPrefix : String := "infinispan.client.hotrod.protofile."

/-- The settings of a whole client. -/
inductive ClientKey where
  | uri
  | serverList
  | marshaller
  | clientIntelligence
  | tracingPropagation
  | useAuth
  | authUsername
  | authPassword
  | authRealm
  | authServerName
  | authClientSubject
  | authCallbackHandler
  | saslMechanism
  | useTls
  | sniHostName
  | trustStoreFile
  | trustStorePassword
  | trustStoreType
  | tlsProvider
  | tlsProtocol
  | tlsCiphers
  | connectTimeout
  | socketTimeout
  | maxRetries
  | tcpNoDelay
  | tcpKeepAlive
  deriving DecidableEq, Repr

namespace ClientKey

def all : List ClientKey :=
  [uri, serverList, marshaller, clientIntelligence, tracingPropagation, useAuth, authUsername,
    authPassword, authRealm, authServerName, authClientSubject, authCallbackHandler, saslMechanism,
    useTls, sniHostName, trustStoreFile, trustStorePassword, trustStoreType, tlsProvider, tlsProtocol,
    tlsCiphers, connectTimeout, socketTimeout, maxRetries, tcpNoDelay, tcpKeepAlive]

def text : ClientKey → String
  | uri => "infinispan.client.hotrod.uri"
  | serverList => "infinispan.client.hotrod.server_list"
  | marshaller => "infinispan.client.hotrod.marshaller"
  | clientIntelligence => "infinispan.client.hotrod.client_intelligence"
  | tracingPropagation => "infinispan.client.hotrod.tracing.propagation_enabled"
  | useAuth => "infinispan.client.hotrod.use_auth"
  | authUsername => "infinispan.client.hotrod.auth_username"
  | authPassword => "infinispan.client.hotrod.auth_password"
  | authRealm => "infinispan.client.hotrod.auth_realm"
  | authServerName => "infinispan.client.hotrod.auth_server_name"
  | authClientSubject => "infinispan.client.hotrod.auth_client_subject"
  | authCallbackHandler => "infinispan.client.hotrod.auth_callback_handler"
  | saslMechanism => "infinispan.client.hotrod.sasl_mechanism"
  | useTls => "infinispan.client.hotrod.use_ssl"
  | sniHostName => "infinispan.client.hotrod.sni_host_name"
  | trustStoreFile => "infinispan.client.hotrod.trust_store_file_name"
  | trustStorePassword => "infinispan.client.hotrod.trust_store_password"
  | trustStoreType => "infinispan.client.hotrod.trust_store_type"
  | tlsProvider => "infinispan.client.hotrod.ssl_provider"
  | tlsProtocol => "infinispan.client.hotrod.ssl_protocol"
  | tlsCiphers => "infinispan.client.hotrod.ssl_ciphers"
  | connectTimeout => "infinispan.client.hotrod.connect_timeout"
  | socketTimeout => "infinispan.client.hotrod.socket_timeout"
  | maxRetries => "infinispan.client.hotrod.max_retries"
  | tcpNoDelay => "infinispan.client.hotrod.tcp_no_delay"
  | tcpKeepAlive => "infinispan.client.hotrod.tcp_keep_alive"

def ofText? (key : String) : Option ClientKey := all.find? fun candidate => candidate.text = key

theorem mem_all (key : ClientKey) : key ∈ all := by cases key <;> decide

theorem ofText?_text (key : ClientKey) : ofText? key.text = some key := by cases key <;> decide

theorem text_injective {key other : ClientKey} (h : key.text = other.text) : key = other := by
  have read := ofText?_text key
  rw [h, ofText?_text] at read
  exact (Option.some.inj read).symm

theorem ofText?_eq_some_iff {key : String} {found : ClientKey} :
    ofText? key = some found ↔ key = found.text := by
  constructor
  · intro h
    have matched := List.find?_some h
    exact (of_decide_eq_true matched).symm
  · rintro rfl
    exact ofText?_text found

end ClientKey

/-- The settings of one cache. -/
inductive CacheKey where
  | configurationUri
  | configuration
  | templateName
  | nearCacheMode
  | nearCacheMaxEntries
  | bloomFilter
  deriving DecidableEq, Repr

namespace CacheKey

def all : List CacheKey :=
  [configurationUri, configuration, templateName, nearCacheMode, nearCacheMaxEntries, bloomFilter]

def text : CacheKey → String
  | configurationUri => "configuration_uri"
  | configuration => "configuration"
  | templateName => "template_name"
  | nearCacheMode => "near_cache.mode"
  | nearCacheMaxEntries => "near_cache.max_entries"
  | bloomFilter => "near_cache.use_bloom_filter"

theorem mem_all (key : CacheKey) : key ∈ all := by cases key <;> decide

end CacheKey

/-- A key that has a meaning for a configuration. -/
inductive PropertyKey where
  | client (key : ClientKey)
  | cache (name : String) (key : CacheKey)
  deriving DecidableEq, Repr

namespace PropertyKey

def text : PropertyKey → String
  | client key => key.text
  | cache name key => cachePrefix ++ name ++ "." ++ key.text

/-- The cache whose setting is named by the part of a key after the cache prefix. -/
def cacheNamed? (rest : List Char) (key : CacheKey) : Option String :=
  match Text.withoutSuffix? ('.' :: key.text.toList) rest with
  | none | some [] => none
  | some name => some (.ofList name)

def ofText? (text : String) : Option PropertyKey :=
  match ClientKey.ofText? text with
  | some key => some (client key)
  | none =>
    match Text.withoutPrefix? cachePrefix.toList text.toList with
    | none => none
    | some rest => CacheKey.all.findSome? fun key => (cacheNamed? rest key).map (cache · key)

end PropertyKey

end HotRod
