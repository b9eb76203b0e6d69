import HotRod.Configuration.Draft
set_option autoImplicit false

/-!
# Runtime sections

The typed settings of one client. They are handed on as client properties, which then override the
properties of the client's own bag. Three settings have a deprecated spelling, which counts when the
present one is missing.
-/

namespace HotRod

/-- What a runtime section says of one cache. -/
structure CacheOverrides where
  /-- Takes precedence over an inline definition. -/
  definitionFile : Option String := none
  definition : Option String := none
  nearCacheMaxEntries : Option Int64 := none
  nearCacheMode : Option NearCacheMode := none
  bloomFilter : Option Bool := none
  deriving DecidableEq

structure RuntimeSection where
  uri : Option String := none
  hosts : Option String := none
  /-- Deprecated spelling of `hosts`. -/
  serverList : Option String := none
  username : Option String := none
  /-- Deprecated spelling of `username`. -/
  authUsername : Option String := none
  password : Option String := none
  /-- Deprecated spelling of `password`. -/
  authPassword : Option String := none
  useAuth : Option Bool := none
  authRealm : Option String := none
  authServerName : Option String := none
  authClientSubject : Option String := none
  authCallbackHandler : Option String := none
  saslMechanism : Option String := none
  trustStore : Option String := none
  trustStorePassword : Option String := none
  trustStoreType : Option String := none
  tlsProvider : Option String := none
  tlsProtocol : Option String := none
  tlsCiphers : List String := []
  clientIntelligence : Option ClientIntelligence := none
  tracingPropagation : Bool := true
  caches : KeyMap CacheOverrides := ∅
  deriving DecidableEq

namespace RuntimeSection

def ciphersText (ciphers : List String) : Option String :=
  if ciphers.isEmpty then none else some (String.intercalate " " ciphers)

/-- What a section writes, in order: a deprecated spelling before the present one, and either a URI or
servers. -/
def writes (runtime : RuntimeSection) : List (ClientKey × Option String) :=
  (match runtime.uri with
    | some uri => [(.uri, some uri)]
    | none => [(.serverList, runtime.serverList), (.serverList, runtime.hosts)]) ++
  [(.authUsername, runtime.authUsername),
    (.authUsername, runtime.username),
    (.authPassword, runtime.authPassword),
    (.authPassword, runtime.password),
    (.tracingPropagation, some (Text.flagText runtime.tracingPropagation)),
    (.clientIntelligence, runtime.clientIntelligence.map ClientIntelligence.text),
    (.useAuth, runtime.useAuth.map Text.flagText),
    (.authRealm, runtime.authRealm),
    (.authServerName, runtime.authServerName),
    (.authClientSubject, runtime.authClientSubject),
    (.authCallbackHandler, runtime.authCallbackHandler),
    (.saslMechanism, runtime.saslMechanism),
    (.trustStoreFile, runtime.trustStore),
    (.trustStorePassword, runtime.trustStorePassword),
    (.trustStoreType, runtime.trustStoreType),
    (.tlsProvider, runtime.tlsProvider),
    (.tlsProtocol, runtime.tlsProtocol),
    (.tlsCiphers, ciphersText runtime.tlsCiphers)]

def properties (runtime : RuntimeSection) : List (String × String) :=
  runtime.writes.filterMap fun (key, value?) => value?.map fun value => (key.text, value)

/-- The deprecated settings that are in use, in the order of their warnings. -/
def deprecations (runtime : RuntimeSection) : List String :=
  (if runtime.uri.isNone && runtime.serverList.isSome then
    ["'server-list' is deprecated, use 'hosts' instead"] else []) ++
  (if runtime.authUsername.isSome then
    ["'auth-username' is deprecated, use 'username' instead"] else []) ++
  (if runtime.authPassword.isSome then
    ["'auth-password' is deprecated, use 'password' instead"] else [])

/-- The servers a section names, as they stand in it. -/
def servers? (runtime : RuntimeSection) : Option String :=
  (runtime.uri.or runtime.hosts).or runtime.serverList

end RuntimeSection

end HotRod
