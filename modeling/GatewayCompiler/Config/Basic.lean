import GatewayCompiler.Resource.Filter
import GatewayCompiler.Text.Integer

/-!
# Configuration

## Main definitions

* `CacheConfig` — which resources are taken, with `CacheConfig.matchesIngressClass`.
* `ProxyConfig` — where listeners are bound and what they all have.
* `ObservabilityConfig` — how events are logged.
* `Config` — all of them.
-/

namespace GatewayCompiler

open Document Decode

/-- Which resources are taken, and where root hosts may stand. -/
structure CacheConfig where
  /-- The namespaces of root hosts; all namespaces when none is listed. -/
  rootNamespaces : List String := []
  /-- The class of the resources. -/
  ingressClass : Option String := none
  deriving DecidableEq, Repr

/-- Where listeners are bound and what they all have. -/
structure ProxyConfig where
  /-- The address of the plain text listener. -/
  httpAddress : String := "0.0.0.0"
  /-- The number of its port. -/
  httpPort : Nat := 8080
  /-- The address of the TLS listener. -/
  httpsAddress : String := "0.0.0.0"
  /-- The number of its port. -/
  httpsPort : Nat := 8443
  /-- Where requests are logged. -/
  accessLogPath : String := "/dev/stdout"
  /-- The time to connect to a service, in milliseconds. -/
  connectTimeoutMs : Nat := 250
  /-- The filters of every connection manager. -/
  defaultHttpFilters : List Filter := []
  deriving DecidableEq, Repr

/-- How events are logged. -/
structure ObservabilityConfig where
  /-- The level from which on events are logged. -/
  logLevel : String := "info"
  /-- Whether events are logged in JSON. -/
  jsonLogs : Bool := false
  deriving DecidableEq, Repr

/-- The whole configuration. -/
structure Config where
  /-- Which resources are taken. -/
  cache : CacheConfig := {}
  /-- Where listeners are bound and what they all have. -/
  proxy : ProxyConfig := {}
  /-- How events are logged. -/
  observability : ObservabilityConfig := {}
  deriving DecidableEq, Repr

namespace CacheConfig

/-- The class that is taken when none is configured. -/
def defaultIngressClass : String := "switchyard"

/-- `c.matchesIngressClass className` says that a resource of the given class is taken.  Without a
configured class, resources without a class are taken too. -/
def matchesIngressClass (c : CacheConfig) (className : Option String) : Bool :=
  match c.ingressClass, className with
  | some configured, some claimed => configured = claimed
  | some _, none => false
  | none, some claimed => claimed = defaultIngressClass
  | none, none => true

/-- `c.isRootNamespace space` says that root hosts may stand in the namespace `space`. -/
def isRootNamespace (c : CacheConfig) (space : String) : Bool :=
  c.rootNamespaces.isEmpty || c.rootNamespaces.contains space

end CacheConfig

/-! ### Decoding and encoding -/

/-- `CacheConfig.decode node` is the cache configuration written by `node`. -/
def CacheConfig.decode (node : Node) : Decode CacheConfig := do
  let f ← record ["rootNamespaces", "ingressClass"] false node
  return { rootNamespaces := ← f.getOr "rootNamespaces" [] (list Decode.text)
           ingressClass := ← f.optional "ingressClass" Decode.text }

/-- `c.encode` is the cache configuration `c` as a node. -/
def CacheConfig.encode (c : CacheConfig) : Node :=
  .record [("rootNamespaces", .ofTexts c.rootNamespaces), ("ingressClass", .ofText? c.ingressClass)]

/-- `ProxyConfig.decode node` is the proxy configuration written by `node`. -/
def ProxyConfig.decode (node : Node) : Decode ProxyConfig := do
  let f ← record ["httpAddress", "httpPort", "httpsAddress", "httpsPort", "accessLogPath",
    "connectTimeoutMs", "defaultHttpFilters"] false node
  let standard : ProxyConfig := {}
  return {
    httpAddress := ← f.getOr "httpAddress" standard.httpAddress Decode.text
    httpPort := ← f.getOr "httpPort" standard.httpPort (unsigned Text.limit32)
    httpsAddress := ← f.getOr "httpsAddress" standard.httpsAddress Decode.text
    httpsPort := ← f.getOr "httpsPort" standard.httpsPort (unsigned Text.limit32)
    accessLogPath := ← f.getOr "accessLogPath" standard.accessLogPath Decode.text
    connectTimeoutMs := ← f.getOr "connectTimeoutMs" standard.connectTimeoutMs
      (unsigned Text.limit64)
    defaultHttpFilters := ← f.getOr "defaultHttpFilters" [] (list Filter.decode) }

/-- `c.encode` is the proxy configuration `c` as a node. -/
def ProxyConfig.encode (c : ProxyConfig) : Node :=
  .record [("httpAddress", .text c.httpAddress), ("httpPort", .int c.httpPort),
    ("httpsAddress", .text c.httpsAddress), ("httpsPort", .int c.httpsPort),
    ("accessLogPath", .text c.accessLogPath), ("connectTimeoutMs", .int c.connectTimeoutMs),
    ("defaultHttpFilters", .ofList Filter.encode c.defaultHttpFilters)]

/-- The observability configuration written by a node. -/
def ObservabilityConfig.decode (node : Node) : Decode ObservabilityConfig := do
  let f ← record ["logLevel", "jsonLogs"] false node
  let standard : ObservabilityConfig := {}
  return { logLevel := ← f.getOr "logLevel" standard.logLevel Decode.text
           jsonLogs := ← f.getOr "jsonLogs" standard.jsonLogs flag }

/-- The observability configuration as a node. -/
def ObservabilityConfig.encode (c : ObservabilityConfig) : Node :=
  .record [("logLevel", .text c.logLevel), ("jsonLogs", .bool c.jsonLogs)]

/-- `Config.decode node` is the configuration written by `node`.  Every part that is missing has its
usual values. -/
def Config.decode (node : Node) : Decode Config := do
  let f ← record ["cache", "translator", "observability"] false node
  return {
    cache := ← f.getOr "cache" {} CacheConfig.decode
    proxy := ← f.getOr "translator" {} ProxyConfig.decode
    observability := ← f.getOr "observability" {} ObservabilityConfig.decode }

/-- The configuration as a node. -/
def Config.encode (c : Config) : Node :=
  .record [("cache", c.cache.encode), ("translator", c.proxy.encode),
    ("observability", c.observability.encode)]

end GatewayCompiler
