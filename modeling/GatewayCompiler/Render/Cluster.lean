import GatewayCompiler.Config.Basic
import GatewayCompiler.Graph.Basic
import GatewayCompiler.Proxy.Message
import GatewayCompiler.Proxy.Naming

/-!
# Clusters and secrets as messages

The name of a cluster ends in a digest of the settings in which clusters of the same port can
differ, and the name of a secret in a digest of its certificate.

## Main definitions

* `KeyMaterial.messageName`, `KeyMaterial.message` — a secret as the proxy knows it.
* `Cluster.messageName`, `Cluster.message` — a cluster as the proxy knows it.
-/

namespace GatewayCompiler

open Proxy

/-- The greatest length of the names of messages. -/
def nameLimit : Nat := 60

/-- The number of bytes of a digest at the end of a name. -/
def nameDigestBytes : Nat := 5

/-! ### Secrets -/

/-- `k.messageName` is the name of a secret as the proxy knows it; it changes with the
certificate. -/
def KeyMaterial.messageName (k : KeyMaterial) : String :=
  hashname nameLimit
    [k.identity.space, k.identity.name, hashPrefix k.certificateChain nameDigestBytes]

/-- A secret as the proxy knows it. -/
def KeyMaterial.message (k : KeyMaterial) : SecretMessage where
  name := k.messageName
  certificateChain := k.certificateChain
  privateKey := k.privateKey

/-! ### Clusters -/

/-- `h.nameParts` are the settings of a health check as parts of a text. -/
def HealthCheck.nameParts (h : HealthCheck) : List String :=
  [s!"timeout={max h.timeoutSeconds 0}s", s!"interval={max h.intervalSeconds 0}s",
   s!"unhealthy={h.unhealthyThreshold}", s!"healthy={h.healthyThreshold}",
   s!"path={h.path}", "host=" ++ h.host.getD ""]

/-- `c.nameParts` are the settings in which clusters of the same port can differ, as parts of a
text.  Nothing in the parts is escaped. -/
def Cluster.nameParts (c : Cluster) : List String :=
  [s!"lb={c.strategy.text}"]
    ++ (match c.healthCheck with
      | none => []
      | some h => h.nameParts)
    ++ (match c.serverValidation with
      | none => []
      | some v => [s!"ca={v.ca.identity.text}", s!"subject={v.subjectName}"])
    ++ (match c.clientCertificate with
      | none => []
      | some k => [s!"client={k.identity.text}"])
    ++ [s!"proto={c.backend.protocol.text}"]

/-- `c.messageName` is the name of a cluster: its service, its port and a digest of its
`nameParts`. -/
def Cluster.messageName (c : Cluster) : String :=
  let target := c.backend.target
  hashname nameLimit
    [target.service.space, target.service.name, toString target.portNumber,
     hashPrefix (textBytes (";".intercalate c.nameParts)) nameDigestBytes]

/-- How an endpoint is chosen. -/
def Strategy.policy : Strategy → BalancingPolicy
  | .roundRobin => .roundRobin
  | .weightedLeastRequest => .leastRequest
  | .random => .random
  | .ringHash | .cookie => .ringHash
  | .maglev => .maglev

/-- Where the endpoints of a port come from. -/
def BackendTarget.discovery (t : BackendTarget) : Discovery :=
  match t.externalName with
  | none => .endpoints t.endpointsName
  | some host => .dns host t.portNumber.toNat

/-- `positive? n` is the number `n` unless it is zero. -/
def positive? (n : Nat) : Option Nat := if 0 < n then some n else none

/-- `l.breakers` are the limits as the proxy knows them, if any is set. -/
def Limits.breakers (l : Limits) : Option (List CircuitBreaker) :=
  if l.isSet then
    some [{
      maxConnections := positive? l.connections
      maxPendingRequests := positive? l.pendingRequests
      maxRequests := positive? l.requests
      maxRetries := positive? l.retries }]
  else none

namespace HealthCheck

/-- The host header of a check that names none. -/
def defaultHost : String := "switchyard-envoy-healthcheck"

/-- `secondsOr seconds usual` is a number of seconds, or the usual one when it is not positive. -/
def secondsOr (seconds : Int) (usual : Nat) : Duration :=
  .ofSeconds (if 0 < seconds then seconds.toNat else usual)

/-- `h.message` is the health check `h` as the proxy knows it. -/
def message (h : HealthCheck) : HealthCheckMessage where
  timeout := secondsOr h.timeoutSeconds 2
  interval := secondsOr h.intervalSeconds 10
  unhealthyThreshold := if 0 < h.unhealthyThreshold then h.unhealthyThreshold else 3
  healthyThreshold := if 0 < h.healthyThreshold then h.healthyThreshold else 2
  host :=
    match h.host with
    | none | some "" => defaultHost
    | some host => host
  path := h.path

end HealthCheck

/-- `c.tlsContext` are the TLS settings of the connections to a cluster. -/
def Cluster.tlsContext (c : Cluster) : TlsContext where
  alpnProtocols := if c.backend.protocol.usesHttp2 then ["h2"] else []
  certificates := c.clientCertificate.toList.map KeyMaterial.messageName
  validation := c.serverValidation.map fun v => ⟨v.ca.caBundle, [.exact v.subjectName]⟩

/-- `c.message config` is the cluster `c` as the proxy knows it. -/
def Cluster.message (c : Cluster) (config : ProxyConfig) : ClusterMessage :=
  let target := c.backend.target
  { name := c.messageName
    altStatName := s!"{target.service.space}_{target.service.name}_{target.portNumber}"
    connectTimeout := .ofMillis config.connectTimeoutMs
    policy := c.strategy.policy
    discovery := target.discovery
    circuitBreakers := target.limits.breakers
    healthChecks := c.healthCheck.toList.map HealthCheck.message
    http2 := c.backend.protocol.usesHttp2
    transportSocket :=
      if c.backend.protocol.usesTls then some (.client (c.sni.getD "") c.tlsContext) else none }

end GatewayCompiler
