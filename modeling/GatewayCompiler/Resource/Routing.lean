import GatewayCompiler.Resource.Filter

/-!
# Routing objects

A `GatewayHost` with a virtual host is a root; without one it only takes part where another host
delegates to it.  A `ServiceRoute` adds routes to the root that owns its domain name.

## Main definitions

* `GatewayHost`, `ServiceRoute` — the routing objects.
* `RouteSpec` — one route: its conditions with services or a delegate.
* `Condition`, `HeaderTest` — what a request has to look like.
* `ServiceSpec` — a service that requests go to.
* `GatewayHost.decode`, `ServiceRoute.decode` — the objects written by nodes.
* `GatewayHost.encode`, `ServiceRoute.encode` — the objects as nodes.
-/

namespace GatewayCompiler

open Document

/-- What is asked of one header. -/
structure HeaderTest where
  /-- The name of the header. -/
  name : String
  /-- Whether the header has to be there. -/
  present : Bool
  /-- The value it has to have. -/
  exact : Option String
  /-- The value it must not have. -/
  notExact : Option String
  /-- The text it has to contain. -/
  contains : Option String
  /-- The text it must not contain. -/
  notContains : Option String
  deriving DecidableEq, Repr

/-- What a request has to look like. -/
structure Condition where
  /-- The beginning of the path. -/
  pathPrefix : Option String
  /-- A pattern for the path. -/
  pathRegex : Option String
  /-- A test of a header. -/
  header : Option HeaderTest
  deriving DecidableEq, Repr

/-- A check of the health of a service. -/
structure HealthCheckSpec where
  /-- The path of the request. -/
  path : String
  /-- The host header of the request. -/
  host : Option String
  /-- The time between two checks. -/
  intervalSeconds : Int
  /-- The time for an answer. -/
  timeoutSeconds : Int
  /-- The number of failures that make the service unhealthy. -/
  unhealthyThreshold : Nat
  /-- The number of answers that make the service healthy. -/
  healthyThreshold : Nat
  deriving DecidableEq, Repr

/-- How the certificate of a service is verified. -/
structure ServerValidationSpec where
  /-- The secret with the certificate authority. -/
  caSecret : String
  /-- The name in the certificate. -/
  subjectName : String
  deriving DecidableEq, Repr

/-- A service that requests go to. -/
structure ServiceSpec where
  /-- The name of the service. -/
  name : String
  /-- The number of its port. -/
  number : Int
  /-- The share of the requests. -/
  weight : Int
  /-- How its endpoints are chosen. -/
  strategy : Option String
  /-- The protocol it speaks; the service's annotations decide when it is not given. -/
  protocol : Option String
  /-- The health check. -/
  healthCheck : Option HealthCheckSpec
  /-- The verification of its certificate. -/
  serverValidation : Option ServerValidationSpec
  /-- The secret with the certificate that is shown to the service. -/
  clientSecret : Option String
  /-- The filters on the requests to it. -/
  filters : List FilterRef
  deriving DecidableEq, Repr

/-- The host that routing continues at. -/
structure Delegate where
  /-- The name of the host. -/
  name : String
  /-- Its namespace, that of the delegating host when it is not given. -/
  space : Option String
  deriving DecidableEq, Repr

/-- `d.target home` is the host that is meant, seen from the namespace `home`. -/
def Delegate.target (d : Delegate) (home : String) : Identity := ⟨d.space.getD home, d.name⟩

/-- How failed requests are repeated. -/
structure RetrySpec where
  /-- The number of retries. -/
  count : Nat
  /-- The time for one attempt. -/
  perTryTimeout : Option String
  deriving DecidableEq, Repr

/-- How long requests may take. -/
structure TimeoutSpec where
  /-- The time for a whole response. -/
  response : Option String
  /-- The time without any data. -/
  idle : Option String
  deriving DecidableEq, Repr

/-- One route. -/
structure RouteSpec where
  /-- What a request has to look like. -/
  conditions : List Condition
  /-- The services that requests go to. -/
  services : List ServiceSpec
  /-- The host that routing continues at. -/
  delegate : Option Delegate
  /-- Whether connections may become websockets. -/
  websockets : Bool
  /-- Whether plain text requests are served although the host has TLS. -/
  permitInsecure : Bool
  /-- What replaces the matched beginning of the path. -/
  prefixReplacement : Option String
  /-- The retries. -/
  retry : Option RetrySpec
  /-- The timeouts. -/
  timeout : Option TimeoutSpec
  /-- The filters. -/
  filters : List FilterRef
  /-- Whether requests are not authorized elsewhere. -/
  skipAuthorization : Bool
  deriving DecidableEq, Repr

/-- The TLS settings of a host. -/
structure TlsSpec where
  /-- The secret with the certificate. -/
  secretName : Option String
  /-- The lowest TLS version. -/
  minVersion : Option String
  /-- Whether connections are passed on without being decrypted. -/
  passthrough : Bool
  deriving DecidableEq, Repr

/-- The host that a root serves. -/
structure VirtualHostSpec where
  /-- The domain name. -/
  fqdn : String
  /-- The TLS settings. -/
  tls : Option TlsSpec
  /-- The filters. -/
  filters : List FilterRef
  deriving DecidableEq, Repr

/-- `v.domain` is the domain name without blanks around it. -/
def VirtualHostSpec.domain (v : VirtualHostSpec) : String := Text.trim v.fqdn

/-- Forwarding of whole connections. -/
structure TcpProxySpec where
  /-- The services that connections go to. -/
  services : List ServiceSpec
  /-- The host that forwarding continues at. -/
  delegate : Option Delegate
  deriving DecidableEq, Repr

/-- A host, or a part of one that another host delegates to. -/
structure GatewayHost where
  /-- The metadata. -/
  metadata : Metadata
  /-- The host that a root serves. -/
  virtualHost : Option VirtualHostSpec
  /-- The routes. -/
  routes : List RouteSpec
  /-- The forwarding of whole connections. -/
  tcpProxy : Option TcpProxySpec

/-- Further routes of a host. -/
structure ServiceRoute where
  /-- The metadata. -/
  metadata : Metadata
  /-- The domain name of the host. -/
  fqdn : String
  /-- The routes. -/
  routes : List RouteSpec

/-- `r.domain` is the domain name without blanks around it. -/
def ServiceRoute.domain (r : ServiceRoute) : String := Text.trim r.fqdn

/-! ### Decoding and encoding

A field may be missing, and unknown fields are passed over.  An encoded object has all fields. -/

open Decode

/-- The first number that is too large for a port number. -/
def limitInt32 : Nat := Nat.pow 2 31

/-- The first number that is too large for a weight or a number of seconds. -/
def limitInt64 : Nat := Nat.pow 2 63

/-- `HeaderTest.decode node` is the header test written by `node`. -/
def HeaderTest.decode (node : Node) : Decode HeaderTest := do
  let f ← record ["name", "present", "exact", "notExact", "contains", "notContains"] false node
  return {
    name := ← f.getOr "name" "" Decode.text
    present := ← f.getOr "present" false flag
    exact := ← f.optional "exact" Decode.text
    notExact := ← f.optional "notExact" Decode.text
    contains := ← f.optional "contains" Decode.text
    notContains := ← f.optional "notContains" Decode.text }

/-- The header test as a node. -/
def HeaderTest.encode (h : HeaderTest) : Node :=
  .record [("name", .text h.name), ("present", .bool h.present), ("exact", .ofText? h.exact),
    ("notExact", .ofText? h.notExact), ("contains", .ofText? h.contains),
    ("notContains", .ofText? h.notContains)]

/-- `Condition.decode node` is the condition written by `node`. -/
def Condition.decode (node : Node) : Decode Condition := do
  let f ← record ["prefix", "regex", "header"] false node
  return {
    pathPrefix := ← f.optional "prefix" Decode.text
    pathRegex := ← f.optional "regex" Decode.text
    header := ← f.optional "header" HeaderTest.decode }

/-- The condition as a node. -/
def Condition.encode (c : Condition) : Node :=
  .record [("prefix", .ofText? c.pathPrefix), ("regex", .ofText? c.pathRegex),
    ("header", .ofOption HeaderTest.encode c.header)]

/-- `HealthCheckSpec.decode node` is the health check written by `node`. -/
def HealthCheckSpec.decode (node : Node) : Decode HealthCheckSpec := do
  let f ← record ["path", "host", "intervalSeconds", "timeoutSeconds", "unhealthyThresholdCount",
    "healthyThresholdCount"] false node
  return {
    path := ← f.getOr "path" "" Decode.text
    host := ← f.optional "host" Decode.text
    intervalSeconds := ← f.getOr "intervalSeconds" 0 (signed limitInt64)
    timeoutSeconds := ← f.getOr "timeoutSeconds" 0 (signed limitInt64)
    unhealthyThreshold := ← f.getOr "unhealthyThresholdCount" 0 (unsigned Text.limit32)
    healthyThreshold := ← f.getOr "healthyThresholdCount" 0 (unsigned Text.limit32) }

/-- The health check as a node. -/
def HealthCheckSpec.encode (h : HealthCheckSpec) : Node :=
  .record [("path", .text h.path), ("host", .ofText? h.host),
    ("intervalSeconds", .int h.intervalSeconds), ("timeoutSeconds", .int h.timeoutSeconds),
    ("unhealthyThresholdCount", .int h.unhealthyThreshold),
    ("healthyThresholdCount", .int h.healthyThreshold)]

/-- `ServerValidationSpec.decode node` is the server validation written by `node`. -/
def ServerValidationSpec.decode (node : Node) : Decode ServerValidationSpec := do
  let f ← record ["caSecret", "subjectName"] false node
  return {
    caSecret := ← f.getOr "caSecret" "" Decode.text
    subjectName := ← f.getOr "subjectName" "" Decode.text }

/-- The server validation as a node. -/
def ServerValidationSpec.encode (v : ServerValidationSpec) : Node :=
  .record [("caSecret", .text v.caSecret), ("subjectName", .text v.subjectName)]

/-- `decodeClientSecret node` is the secret named by the client validation that `node` writes. -/
def decodeClientSecret (node : Node) : Decode String := do
  let f ← record ["secretName"] false node
  f.getOr "secretName" "" Decode.text

/-- The client validation with a secret as a node. -/
def encodeClientSecret (name : String) : Node := .record [("secretName", .text name)]

/-- `ServiceSpec.decode node` is the service written by `node`. -/
def ServiceSpec.decode (node : Node) : Decode ServiceSpec := do
  let f ← record ["name", "port", "weight", "strategy", "protocol", "healthCheck",
    "upstreamValidation", "clientValidation", "filters"] false node
  return {
    name := ← f.getOr "name" "" Decode.text
    number := ← f.getOr "port" 0 (signed limitInt32)
    weight := ← f.getOr "weight" 0 (signed limitInt64)
    strategy := ← f.optional "strategy" Decode.text
    protocol := ← f.optional "protocol" Decode.text
    healthCheck := ← f.optional "healthCheck" HealthCheckSpec.decode
    serverValidation := ← f.optional "upstreamValidation" ServerValidationSpec.decode
    clientSecret := ← f.optional "clientValidation" decodeClientSecret
    filters := ← f.getOr "filters" [] (list FilterRef.decode) }

/-- The service as a node. -/
def ServiceSpec.encode (s : ServiceSpec) : Node :=
  .record [("name", .text s.name), ("port", .int s.number), ("weight", .int s.weight),
    ("strategy", .ofText? s.strategy), ("protocol", .ofText? s.protocol),
    ("healthCheck", .ofOption HealthCheckSpec.encode s.healthCheck),
    ("upstreamValidation", .ofOption ServerValidationSpec.encode s.serverValidation),
    ("clientValidation", .ofOption encodeClientSecret s.clientSecret),
    ("filters", .ofList FilterRef.encode s.filters)]

/-- `Delegate.decode node` is the delegate written by `node`. -/
def Delegate.decode (node : Node) : Decode Delegate := do
  let f ← record ["name", "namespace"] false node
  return { name := ← f.getOr "name" "" Decode.text
           space := ← f.optional "namespace" Decode.text }

/-- The delegate as a node. -/
def Delegate.encode (d : Delegate) : Node :=
  .record [("name", .text d.name), ("namespace", .ofText? d.space)]

/-- `RetrySpec.decode node` are the retries written by `node`. -/
def RetrySpec.decode (node : Node) : Decode RetrySpec := do
  let f ← record ["count", "perTryTimeout"] false node
  return { count := ← f.getOr "count" 0 (unsigned Text.limit32)
           perTryTimeout := ← f.optional "perTryTimeout" Decode.text }

/-- The retries as a node. -/
def RetrySpec.encode (r : RetrySpec) : Node :=
  .record [("count", .int r.count), ("perTryTimeout", .ofText? r.perTryTimeout)]

/-- `TimeoutSpec.decode node` are the timeouts written by `node`. -/
def TimeoutSpec.decode (node : Node) : Decode TimeoutSpec := do
  let f ← record ["response", "idle"] false node
  return { response := ← f.optional "response" Decode.text
           idle := ← f.optional "idle" Decode.text }

/-- The timeouts as a node. -/
def TimeoutSpec.encode (t : TimeoutSpec) : Node :=
  .record [("response", .ofText? t.response), ("idle", .ofText? t.idle)]

/-- `RouteSpec.decode node` is the route written by `node`. -/
def RouteSpec.decode (node : Node) : Decode RouteSpec := do
  let f ← record ["conditions", "services", "delegate", "enableWebsockets", "permitInsecure",
    "prefixRewrite", "retryPolicy", "timeoutPolicy", "filters", "disableExternalAuthorization"]
    false node
  return {
    conditions := ← f.getOr "conditions" [] (list Condition.decode)
    services := ← f.getOr "services" [] (list ServiceSpec.decode)
    delegate := ← f.optional "delegate" Delegate.decode
    websockets := ← f.getOr "enableWebsockets" false flag
    permitInsecure := ← f.getOr "permitInsecure" false flag
    prefixReplacement := ← f.optional "prefixRewrite" Decode.text
    retry := ← f.optional "retryPolicy" RetrySpec.decode
    timeout := ← f.optional "timeoutPolicy" TimeoutSpec.decode
    filters := ← f.getOr "filters" [] (list FilterRef.decode)
    skipAuthorization := ← f.getOr "disableExternalAuthorization" false flag }

/-- The route as a node. -/
def RouteSpec.encode (r : RouteSpec) : Node :=
  .record [("conditions", .ofList Condition.encode r.conditions),
    ("services", .ofList ServiceSpec.encode r.services),
    ("delegate", .ofOption Delegate.encode r.delegate),
    ("enableWebsockets", .bool r.websockets), ("permitInsecure", .bool r.permitInsecure),
    ("prefixRewrite", .ofText? r.prefixReplacement),
    ("retryPolicy", .ofOption RetrySpec.encode r.retry),
    ("timeoutPolicy", .ofOption TimeoutSpec.encode r.timeout),
    ("filters", .ofList FilterRef.encode r.filters),
    ("disableExternalAuthorization", .bool r.skipAuthorization)]

/-- `TlsSpec.decode node` are the TLS settings written by `node`. -/
def TlsSpec.decode (node : Node) : Decode TlsSpec := do
  let f ← record ["secretName", "minimumProtocolVersion", "passthrough"] false node
  return {
    secretName := ← f.optional "secretName" Decode.text
    minVersion := ← f.optional "minimumProtocolVersion" Decode.text
    passthrough := ← f.getOr "passthrough" false flag }

/-- The TLS settings as a node. -/
def TlsSpec.encode (t : TlsSpec) : Node :=
  .record [("secretName", .ofText? t.secretName), ("minimumProtocolVersion", .ofText? t.minVersion),
    ("passthrough", .bool t.passthrough)]

/-- `VirtualHostSpec.decode node` is the virtual host written by `node`. -/
def VirtualHostSpec.decode (node : Node) : Decode VirtualHostSpec := do
  let f ← record ["fqdn", "tls", "filters"] false node
  return {
    fqdn := ← f.getOr "fqdn" "" Decode.text
    tls := ← f.optional "tls" TlsSpec.decode
    filters := ← f.getOr "filters" [] (list FilterRef.decode) }

/-- The virtual host as a node. -/
def VirtualHostSpec.encode (v : VirtualHostSpec) : Node :=
  .record [("fqdn", .text v.fqdn), ("tls", .ofOption TlsSpec.encode v.tls),
    ("filters", .ofList FilterRef.encode v.filters)]

/-- `TcpProxySpec.decode node` is the forwarding written by `node`. -/
def TcpProxySpec.decode (node : Node) : Decode TcpProxySpec := do
  let f ← record ["services", "delegate"] false node
  return {
    services := ← f.getOr "services" [] (list ServiceSpec.decode)
    delegate := ← f.optional "delegate" Delegate.decode }

/-- The forwarding as a node. -/
def TcpProxySpec.encode (t : TcpProxySpec) : Node :=
  .record [("services", .ofList ServiceSpec.encode t.services),
    ("delegate", .ofOption Delegate.encode t.delegate)]

/-- `GatewayHost.decode node` is the host written by `node`. -/
def GatewayHost.decode (node : Node) : Decode GatewayHost := do
  let f ← record ["metadata", "spec"] false node
  let metadata ← f.getOr "metadata" {} Metadata.decode
  f.getOr "spec" ⟨metadata, none, [], none⟩ fun spec => do
    let f ← record ["virtualHost", "routes", "tcpProxy"] false spec
    return {
      metadata
      virtualHost := ← f.optional "virtualHost" VirtualHostSpec.decode
      routes := ← f.getOr "routes" [] (list RouteSpec.decode)
      tcpProxy := ← f.optional "tcpProxy" TcpProxySpec.decode }

/-- The host as a node. -/
def GatewayHost.encode (h : GatewayHost) : Node :=
  .record [("metadata", h.metadata.encode), ("spec", .record [
    ("virtualHost", .ofOption VirtualHostSpec.encode h.virtualHost),
    ("routes", .ofList RouteSpec.encode h.routes),
    ("tcpProxy", .ofOption TcpProxySpec.encode h.tcpProxy)])]

/-- `ServiceRoute.decode node` is the service route written by `node`. -/
def ServiceRoute.decode (node : Node) : Decode ServiceRoute := do
  let f ← record ["metadata", "spec"] false node
  let metadata ← f.getOr "metadata" {} Metadata.decode
  f.getOr "spec" ⟨metadata, "", []⟩ fun spec => do
    let f ← record ["fqdn", "routes"] false spec
    return {
      metadata
      fqdn := ← f.getOr "fqdn" "" Decode.text
      routes := ← f.getOr "routes" [] (list RouteSpec.decode) }

/-- The service route as a node. -/
def ServiceRoute.encode (r : ServiceRoute) : Node :=
  .record [("metadata", r.metadata.encode),
    ("spec", .record [("fqdn", .text r.fqdn), ("routes", .ofList RouteSpec.encode r.routes)])]

end GatewayCompiler
