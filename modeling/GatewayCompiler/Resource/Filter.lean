import GatewayCompiler.Resource.Metadata

/-!
# Filters

A filter changes how requests are handled on a host, on a route or towards one service.  Its
settings are kept as text until it is known where the filter is attached.

## Main definitions

* `FilterKind` — what a filter does, with its rank in the fixed order of HTTP filters.
* `FilterScope` — where a filter is attached; `FilterKind.canAttachTo` says which go together.
* `FilterRef` — a reference to a filter object.
* `FilterObject` — a filter object as it is stored.
* `Filter` — a filter attached under a name.
-/

namespace GatewayCompiler

open Document

/-- Where a filter is attached. -/
inductive FilterScope
  /-- All requests of a host. -/
  | virtualHost
  /-- The requests of one route. -/
  | route
  /-- The requests of one route that go to one service. -/
  | cluster
  deriving DecidableEq, Repr

/-- The words for a scope. -/
def FilterScope.text : FilterScope → String
  | .virtualHost => "virtual host"
  | .route => "route"
  | .cluster => "service"

/-- What a filter does. -/
inductive FilterKind
  /-- Runs a script. -/
  | lua
  /-- Compresses responses. -/
  | compression
  /-- Bridges gRPC-Web to gRPC. -/
  | grpcWeb
  /-- Answers cross-origin requests. -/
  | cors
  /-- Asks a service whether a request is within its rate. -/
  | rateLimit
  /-- Sets the retry policy of a route. -/
  | retry
  /-- Sets the timeouts of a route. -/
  | timeout
  /-- Sets the host header of requests. -/
  | hostHeader
  deriving DecidableEq, Repr

namespace FilterKind

/-- All kinds. -/
def all : List FilterKind :=
  [.lua, .compression, .grpcWeb, .cors, .rateLimit, .retry, .timeout, .hostHeader]

/-- The name of a kind. -/
def text : FilterKind → String
  | .lua => "lua"
  | .compression => "compression"
  | .grpcWeb => "grpcWeb"
  | .cors => "cors"
  | .rateLimit => "rateLimit"
  | .retry => "retry"
  | .timeout => "timeout"
  | .hostHeader => "hostRewrite"

/-- `FilterKind.ofText? text` is the kind of a name. -/
def ofText? (text : String) : Option FilterKind := all.find? fun k => k.text = text

/-- `k.chainRank` is the place in the fixed order of HTTP filters; the other kinds act on the route
alone. -/
def chainRank : FilterKind → Option Nat
  | .lua => some 0
  | .compression => some 1
  | .grpcWeb => some 2
  | .cors => some 3
  | .rateLimit => some 4
  | .retry | .timeout | .hostHeader => none

/-- `k.isHttpFilter` says that filters of this kind stand in a connection manager. -/
def isHttpFilter (k : FilterKind) : Bool := k.chainRank.isSome

/-- `k.canAttachTo scope` says that filters of this kind may be attached at a scope. -/
def canAttachTo (k : FilterKind) : FilterScope → Bool
  | .virtualHost => k.isHttpFilter
  | .route => true
  | .cluster =>
    match k with
    | .lua | .compression | .grpcWeb | .cors | .hostHeader => true
    | .rateLimit | .retry | .timeout => false

end FilterKind

/-- A reference from a routing object to a filter object. -/
structure FilterRef where
  /-- The name of the filter object. -/
  name : String
  /-- Its namespace, that of the referring object when it is not given. -/
  space : Option String
  deriving DecidableEq, Repr

/-- `r.target home` is what the reference points at, seen from the namespace `home`. -/
def FilterRef.target (r : FilterRef) (home : String) : Identity := ⟨r.space.getD home, r.name⟩

/-- A filter object. -/
structure FilterObject where
  /-- The metadata. -/
  metadata : Metadata
  /-- What the filter does. -/
  kind : FilterKind
  /-- The settings. -/
  config : String

/-- A filter attached to a host, a route or a cluster. -/
structure Filter where
  /-- The name, by which filters replace one another. -/
  name : String
  /-- What the filter does. -/
  kind : FilterKind
  /-- The settings. -/
  config : String
  deriving DecidableEq, Repr

/-- `FilterRef.decode node` is the reference written by `node`. -/
def FilterRef.decode (node : Node) : Decode FilterRef := do
  let f ← Decode.record ["name", "namespace"] false node
  return { name := ← f.getOr "name" "" Decode.text
           space := ← f.optional "namespace" Decode.text }

/-- The reference as a node. -/
def FilterRef.encode (r : FilterRef) : Node :=
  .record [("name", .text r.name), ("namespace", .ofText? r.space)]

/-- `FilterObject.decode node` is the filter object written by `node`. -/
def FilterObject.decode (node : Node) : Decode FilterObject := do
  let f ← Decode.record ["metadata", "spec"] false node
  let metadata ← f.getOr "metadata" {} Metadata.decode
  f.required "spec" fun spec => do
    let f ← Decode.record ["filterType", "config"] false spec
    return { metadata
             kind := ← f.required "filterType" (Decode.oneOf FilterKind.ofText?)
             config := ← f.getOr "config" "" Decode.text }

/-- The filter object as a node. -/
def FilterObject.encode (f : FilterObject) : Node :=
  .record [("metadata", f.metadata.encode),
    ("spec", .record [("filterType", .text f.kind.text), ("config", .text f.config)])]

/-- `Filter.decode node` is the filter written by `node`. -/
def Filter.decode (node : Node) : Decode Filter := do
  let f ← Decode.record ["name", "filterType", "config"] false node
  return { name := ← f.required "name" Decode.text
           kind := ← f.required "filterType" (Decode.oneOf FilterKind.ofText?)
           config := ← f.getOr "config" "" Decode.text }

/-- The filter as a node. -/
def Filter.encode (f : Filter) : Node :=
  .record [("name", .text f.name), ("filterType", .text f.kind.text), ("config", .text f.config)]

end GatewayCompiler
