import HotRod.Configuration.Basic
import HotRod.Text.Json
set_option autoImplicit false

/-!
# Configurations as JSON

The form in which a configuration is shown. Passwords and properties are left out, and of the
marshaller only the media type is shown.
-/

namespace HotRod

def Authentication.toJson (authentication : Authentication) : Json :=
  .object [
    ("enabled", .bool authentication.enabled),
    ("username", .ofOption authentication.username),
    ("realm", .text authentication.realm),
    ("server_name", .text authentication.serverName),
    ("client_subject", .ofOption authentication.clientSubject),
    ("callback_handler", .ofOption authentication.callbackHandler),
    ("sasl_mechanism", .text authentication.mechanism)]

def Tls.toJson (tls : Tls) : Json :=
  .object [
    ("enabled", .bool tls.enabled),
    ("sni_host_name", .ofOption tls.sniHostName),
    ("trust_store_file_name", .ofOption tls.trustStoreFile),
    ("trust_store_type", .ofOption tls.trustStoreType),
    ("provider", .ofOption tls.provider),
    ("protocol", .ofOption tls.protocol),
    ("ciphers", .list (tls.ciphers.map .text))]

def CacheConfiguration.toJson (cache : CacheConfiguration) : Json :=
  .object [
    ("name", .text cache.name),
    ("configuration", .ofOption cache.definition),
    ("configuration_uri", .ofOption cache.definitionFile),
    ("template_name", .ofOption cache.templateName),
    ("near_cache_mode", .text cache.nearCacheMode.text),
    ("near_cache_max_entries", .number cache.nearCacheMaxEntries.toInt),
    ("near_cache_use_bloom_filter", .bool cache.bloomFilter)]

def Configuration.toJson (configuration : Configuration) : Json :=
  .object [
    ("servers", .list (configuration.servers.map fun server => .text server.text)),
    ("marshaller", .ofOption (configuration.marshaller.map MarshallerKind.mediaType)),
    ("security", .object [
      ("authentication", configuration.authentication.toJson),
      ("ssl", configuration.tls.toJson)]),
    ("client_intelligence", .text configuration.intelligence.text),
    ("tracing_propagation_enabled", .bool configuration.tracingPropagation),
    ("connect_timeout_ms", .number configuration.connectTimeout.toNat),
    ("socket_timeout_ms", .number configuration.socketTimeout.toNat),
    ("max_retries", .number configuration.maxRetries.toNat),
    ("tcp_no_delay", .bool configuration.tcpNoDelay),
    ("tcp_keep_alive", .bool configuration.tcpKeepAlive),
    ("remote_caches", .object
      (configuration.caches.toList.map fun (name, cache) => (name, cache.toJson)))]

end HotRod
