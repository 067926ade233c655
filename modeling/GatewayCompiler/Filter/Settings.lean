import GatewayCompiler.Filter.Compression
import GatewayCompiler.Filter.Cors
import GatewayCompiler.Filter.Lua
import GatewayCompiler.Filter.RateLimit
import GatewayCompiler.Yaml.Stream

/-!
# Settings of filters

The settings of a filter are decoded and checked for the scope at which the filter is attached.

## Main definitions

* `FilterSettings` — the settings of each kind.
* `FilterSettings.parse` — the settings that a text stands for at a scope.
* `chainConfig`, `overrideConfig`, `routeActions` — what the settings come to in a connection
  manager, on a host, a route or a cluster, and in the action of a route.
-/

namespace GatewayCompiler

open Document Decode

/-- The settings of each kind of filter, read from the text of its configuration. -/
inductive FilterSettings
  /-- A script. -/
  | lua (settings : LuaSettings)
  /-- Compression of responses. -/
  | compression (settings : CompressionSettings)
  /-- The bridge from gRPC-Web to gRPC. -/
  | grpcWeb
  /-- A cross-origin policy. -/
  | cors (settings : CorsSettings)
  /-- A rate limit. -/
  | rateLimit (settings : RateLimitSettings)
  /-- A retry policy. -/
  | retry (settings : RetrySettings)
  /-- A timeout policy. -/
  | timeout (settings : TimeoutSettings)
  /-- Another host header. -/
  | hostHeader (host : String)
  deriving DecidableEq, Repr

/-- `decodeHost node` is the host header that requests are given, written by `node`. -/
def decodeHost (node : Node) : Decode String := do
  let f ← record ["host"] true node
  f.getOr "host" "" Decode.text

/-- The host header that requests are given, as a node. -/
def encodeHost (host : String) : Node := .record [("host", .text host)]

/-- A record without fields. -/
def decodeNothing (node : Node) : Decode Unit := do
  let _ ← record [] true node

namespace FilterSettings

/-- `sourceText config` is the text that settings are read from; a blank one stands for no settings
at all. -/
def sourceText (config : String) : String :=
  if Text.isBlankText config then "\x7b\x7d" else config

/-- `decodeText kind decoder config` is what the text `config` of settings decodes to. -/
def decodeText {α : Type} (kind : FilterKind) (decoder : Node → Decode α) (config : String) :
    Except FilterError α :=
  match (Yaml.read? (sourceText config)).bind (Document.decode? decoder) with
  | some value => .ok value
  | none => .error (.undecodable kind)

/-- `parseAt kind scope config` are the settings of a kind that a text stands for at a scope,
whether or not filters of that kind may stand there. -/
def parseAt (kind : FilterKind) (scope : FilterScope) (config : String) :
    Except FilterError FilterSettings :=
  match kind with
  | .lua => do
    let s ← decodeText kind LuaSettings.decode config
    s.validate
    return .lua s
  | .compression => do
    let s ← decodeText kind CompressionSettings.decode config
    s.validate
    return .compression s
  | .grpcWeb => do
    decodeText kind decodeNothing config
    return .grpcWeb
  | .cors => do
    let s ← decodeText kind CorsSettings.decode config
    s.validate
    return .cors s
  | .rateLimit => do
    let s ← decodeText kind RateLimitSettings.decode config
    if scope = .route then s.validateRoute else s.validateFilter
    return .rateLimit s
  | .retry => do return .retry (← decodeText kind RetrySettings.decode config)
  | .timeout => do return .timeout (← decodeText kind TimeoutSettings.decode config)
  | .hostHeader => do
    let host ← decodeText kind decodeHost config
    if Text.isBlankText host then throw .blankHost
    return .hostHeader host

/-- `parse kind scope config` are the settings that a text stands for at a scope where filters of
the kind may stand. -/
def parse (kind : FilterKind) (scope : FilterScope) (config : String) :
    Except FilterError FilterSettings :=
  if kind.canAttachTo scope then parseAt kind scope config else .error (.wrongScope kind scope)

/-- The settings as a node. -/
def encode : FilterSettings → Node
  | .lua s => s.encode
  | .compression s => s.encode
  | .grpcWeb => .record []
  | .cors s => s.encode
  | .rateLimit s => s.encode
  | .retry s => s.encode
  | .timeout s => s.encode
  | .hostHeader host => encodeHost host

/-- `s.chainConfig` is the filter in a connection manager, if the settings make one. -/
def chainConfig : FilterSettings → Except FilterError (Option Proxy.HttpFilterConfig)
  | .lua s => s.chainConfig.map some
  | .compression s => s.chainConfig.map some
  | .grpcWeb => .ok (some .grpcWeb)
  | .cors _ => .ok (some .cors)
  | .rateLimit s => if s.hasService then s.chainConfig.map some else .ok none
  | .retry _ | .timeout _ | .hostHeader _ => .ok none

/-- `s.overrideConfig` is what replaces the filter's configuration on a host, a route or a
cluster. -/
def overrideConfig : FilterSettings → Except FilterError (Option Proxy.OverrideConfig)
  | .lua s => s.overrideConfig.map some
  | .cors s => s.overrideConfig.map some
  | _ => .ok none

/-- What the settings count on a route. -/
def routeActions : FilterSettings → Option (List Proxy.RateLimitAction)
  | .rateLimit s => s.routeActions
  | _ => none

end FilterSettings

/-- `f.settings scope` are the settings of the filter `f` at `scope`, by `FilterSettings.parse`. -/
def Filter.settings (f : Filter) (scope : FilterScope) : Except FilterError FilterSettings :=
  FilterSettings.parse f.kind scope f.config

end GatewayCompiler
