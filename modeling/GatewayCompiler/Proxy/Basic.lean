import GatewayCompiler.Policy.Timeout

/-!
# Parts of proxy messages

## Main definitions

* `Duration` — a span of time as a message holds it.
* `StringMatcher` — a test of a text.
* `HttpFilterConfig` — what a filter of a connection manager is configured with.
* `FilterOverride` — what changes about a filter on a host, a route or a cluster.
* `typeUrl` functions — the full name of the type of a message.
-/

namespace GatewayCompiler.Proxy

/-- `typeUrl name` is the full name of a message type. -/
def typeUrl (name : String) : String := "type.googleapis.com/" ++ name

/-- A span of time: signed seconds of 64 bits and the nanoseconds beside them. -/
structure Duration where
  /-- The whole seconds. -/
  seconds : Int
  /-- The nanoseconds beside them. -/
  nanos : Nat
  deriving DecidableEq, Repr

namespace Duration

/-- No time at all. -/
def zero : Duration := ⟨0, 0⟩

/-- `Duration.ofNanos nanos` is the span of a number of nanoseconds. -/
def ofNanos (nanos : Nat) : Duration :=
  ⟨Int.bmod (nanos / 1000000000 : Nat) (Nat.pow 2 64), nanos % 1000000000⟩

/-- `Duration.ofMillis millis` is the span of a number of milliseconds. -/
def ofMillis (millis : Nat) : Duration := ofNanos (millis * 1000000)

/-- The span of a number of seconds. -/
def ofSeconds (seconds : Nat) : Duration := ofNanos (seconds * 1000000000)

/-- `Duration.ofTimeout t` is the value of a timeout: nothing leaves the proxy's own limit, and zero
removes it. -/
def ofTimeout : Timeout → Option Duration
  | .standard => none
  | .infinite => some zero
  | .after nanos => some (ofNanos nanos)

end Duration

/-- A test of a text. -/
inductive StringMatcher
  /-- The text is this one. -/
  | exact (value : String)
  /-- The text begins with this one. -/
  | startsWith (value : String)
  /-- The text ends with this one. -/
  | endsWith (value : String)
  /-- The text contains this one. -/
  | contains (value : String)
  deriving DecidableEq, Repr

/-! ### Filters of a connection manager -/

/-- Compression of responses. -/
structure Compressor where
  /-- The size from which on responses are compressed. -/
  minContentLength : Option Nat
  /-- The content types that are compressed. -/
  contentTypes : List String
  /-- The level, zero for the usual one. -/
  level : Nat
  /-- Whether responses with an `ETag` header are left alone. -/
  disableOnEtag : Bool
  /-- Whether compression is on. -/
  enabled : Bool := true
  /-- The name of the library. -/
  library : String := "gzip"
  deriving DecidableEq, Repr

/-- Rate limiting by a service. -/
structure RateLimitFilter where
  /-- The domain of the limits. -/
  domain : String
  /-- The time for an answer. -/
  timeout : Duration
  /-- Whether requests are refused when there is no answer. -/
  failureModeDeny : Bool
  /-- What the names of statistics begin with. -/
  statPrefix : String
  /-- The cluster of the service. -/
  clusterName : String
  /-- The authority header of the calls. -/
  authority : String
  deriving DecidableEq, Repr

/-- What a filter of a connection manager is configured with. -/
inductive HttpFilterConfig
  /-- A script. -/
  | lua (source : String) (statPrefix : String)
  /-- Compression. -/
  | compressor (config : Compressor)
  /-- The bridge from gRPC-Web to gRPC. -/
  | grpcWeb
  /-- The place of cross-origin policies, which are given elsewhere. -/
  | cors
  /-- Rate limiting. -/
  | rateLimit (config : RateLimitFilter)
  /-- The routing itself, which comes last. -/
  | router
  deriving DecidableEq, Repr

/-- The type of a filter's configuration. -/
def HttpFilterConfig.typeUrl : HttpFilterConfig → String
  | .lua .. => Proxy.typeUrl "envoy.extensions.filters.http.lua.v3.Lua"
  | .compressor _ => Proxy.typeUrl "envoy.extensions.filters.http.compressor.v3.Compressor"
  | .grpcWeb => Proxy.typeUrl "envoy.extensions.filters.http.grpc_web.v3.GrpcWeb"
  | .cors => Proxy.typeUrl "envoy.extensions.filters.http.cors.v3.Cors"
  | .rateLimit _ => Proxy.typeUrl "envoy.extensions.filters.http.ratelimit.v3.RateLimit"
  | .router => Proxy.typeUrl "envoy.extensions.filters.http.router.v3.Router"

/-- The type of the configuration of the compression library. -/
def Compressor.libraryTypeUrl (_ : Compressor) : String :=
  typeUrl "envoy.extensions.compression.gzip.compressor.v3.Gzip"

/-! ### Overrides -/

/-- A cross-origin policy. -/
structure CorsPolicy where
  /-- The origins. -/
  allowOrigin : List StringMatcher
  /-- The methods, with commas between them. -/
  allowMethods : String
  /-- The request headers, with commas between them. -/
  allowHeaders : String
  /-- The response headers, with commas between them. -/
  exposeHeaders : String
  /-- The seconds for which an answer may be kept. -/
  maxAge : String
  /-- Whether credentials may be sent. -/
  allowCredentials : Option Bool
  deriving DecidableEq, Repr

/-- What replaces a filter's own configuration. -/
inductive OverrideConfig
  /-- Another script. -/
  | lua (source : String)
  /-- A cross-origin policy. -/
  | cors (policy : CorsPolicy)
  deriving DecidableEq, Repr

/-- The type of a replacing configuration. -/
def OverrideConfig.typeUrl : OverrideConfig → String
  | .lua _ => Proxy.typeUrl "envoy.extensions.filters.http.lua.v3.LuaPerRoute"
  | .cors _ => Proxy.typeUrl "envoy.extensions.filters.http.cors.v3.CorsPolicy"

/-- What changes about a filter on a host, a route or a cluster. -/
inductive FilterOverride
  /-- The filter is on, with its own configuration or another one. -/
  | enabled (config : Option OverrideConfig)
  /-- Requests are not authorized elsewhere. -/
  | authorizationDisabled
  deriving DecidableEq, Repr

/-- The type of an override. -/
def FilterOverride.typeUrl : FilterOverride → String
  | .enabled _ => Proxy.typeUrl "envoy.config.route.v3.FilterConfig"
  | .authorizationDisabled =>
    Proxy.typeUrl "envoy.extensions.filters.http.ext_authz.v3.ExtAuthzPerRoute"

/-- What a rate limit counts by. -/
inductive RateLimitAction
  /-- A fixed value, under a key of its own unless it is empty. -/
  | genericKey (value key : String)
  /-- The address of the client. -/
  | remoteAddress
  /-- The value of a header. -/
  | requestHeaders (headerName key : String)
  deriving DecidableEq, Repr

end GatewayCompiler.Proxy
