import GatewayCompiler.Graph.Match
import GatewayCompiler.OrderedMap
import GatewayCompiler.Proxy.Basic

/-!
# Proxy messages

What the proxy is configured with: clusters, secrets, route configurations and listeners.

## Main definitions

* `ClusterMessage`, `SecretMessage`, `RouteConfiguration`, `ListenerMessage` — the four kinds.
* `TlsContext`, `TransportSocket` — the settings of TLS connections.
* `Snapshot` — all messages of one graph, with look-ups by name.
-/

namespace GatewayCompiler.Proxy

/-! ### TLS -/

/-- How a certificate is verified: by whom it is signed and which name it has to have. -/
structure CertificateValidation where
  /-- The certificate authorities. -/
  trustedCa : List UInt8
  /-- The tests of the DNS names in the certificate. -/
  dnsNames : List StringMatcher
  deriving DecidableEq, Repr

/-- The settings of TLS connections. -/
structure TlsContext where
  /-- The lowest TLS version. -/
  minVersion : Option String := none
  /-- The protocols that are offered. -/
  alpnProtocols : List String := []
  /-- The names of the secrets with the own certificates. -/
  certificates : List String := []
  /-- How the certificate of the other side is verified. -/
  validation : Option CertificateValidation := none
  deriving DecidableEq, Repr

/-- The side of a TLS connection with its settings. -/
inductive TransportSocket
  /-- The side that connects, to a server name. -/
  | client (sni : String) (context : TlsContext)
  /-- The side that is connected to. -/
  | server (context : TlsContext)
  deriving DecidableEq, Repr

namespace TransportSocket

/-- The name of every TLS socket. -/
def name : String := "envoy.transport_sockets.tls"

/-- The type of a socket's settings. -/
def typeUrl : TransportSocket → String
  | .client .. => Proxy.typeUrl "envoy.extensions.transport_sockets.tls.v3.UpstreamTlsContext"
  | .server _ => Proxy.typeUrl "envoy.extensions.transport_sockets.tls.v3.DownstreamTlsContext"

end TransportSocket

/-! ### Clusters -/

/-- How an endpoint is chosen. -/
inductive BalancingPolicy
  /-- One after the other. -/
  | roundRobin
  /-- The one with the fewest requests. -/
  | leastRequest
  /-- By a hash on a ring. -/
  | ringHash
  /-- Any of them. -/
  | random
  /-- By a hash in a table. -/
  | maglev
  deriving DecidableEq, Repr

/-- The name of a policy. -/
def BalancingPolicy.text : BalancingPolicy → String
  | .roundRobin => "ROUND_ROBIN"
  | .leastRequest => "LEAST_REQUEST"
  | .ringHash => "RING_HASH"
  | .random => "RANDOM"
  | .maglev => "MAGLEV"

/-- Where the endpoints of a cluster come from. -/
inductive Discovery
  /-- From the control plane, under a name. -/
  | endpoints (serviceName : String)
  /-- From the name service: a name and a port number. -/
  | dns (host : String) (number : Nat)
  deriving DecidableEq, Repr

/-- The name of a way of discovery. -/
def Discovery.text : Discovery → String
  | .endpoints _ => "EDS"
  | .dns .. => "STRICT_DNS"

/-- Limits on what a cluster is given at a time. -/
structure CircuitBreaker where
  /-- The priority that the limits are for. -/
  priority : String := "DEFAULT"
  /-- Connections. -/
  maxConnections : Option Nat
  /-- Requests that wait. -/
  maxPendingRequests : Option Nat
  /-- Requests. -/
  maxRequests : Option Nat
  /-- Retries. -/
  maxRetries : Option Nat
  deriving DecidableEq, Repr

/-- A check of the health of endpoints. -/
structure HealthCheckMessage where
  /-- The time for an answer. -/
  timeout : Duration
  /-- The time between two checks. -/
  interval : Duration
  /-- The number of failures that make an endpoint unhealthy. -/
  unhealthyThreshold : Nat
  /-- The number of answers that make an endpoint healthy. -/
  healthyThreshold : Nat
  /-- The host header of the request. -/
  host : String
  /-- The path of the request. -/
  path : String
  deriving DecidableEq, Repr

/-- A cluster as the proxy knows it. -/
structure ClusterMessage where
  /-- The name. -/
  name : String
  /-- The name in statistics. -/
  altStatName : String
  /-- The time to connect. -/
  connectTimeout : Duration
  /-- How an endpoint is chosen. -/
  policy : BalancingPolicy
  /-- Where the endpoints come from. -/
  discovery : Discovery
  /-- Limits. -/
  circuitBreakers : Option (List CircuitBreaker)
  /-- Health checks. -/
  healthChecks : List HealthCheckMessage
  /-- Whether requests are made in HTTP/2. -/
  http2 : Bool
  /-- The TLS settings. -/
  transportSocket : Option TransportSocket
  deriving DecidableEq, Repr

namespace ClusterMessage

/-- The key of the protocol options. -/
def protocolOptionsKey : String := "envoy.extensions.upstreams.http.v3.HttpProtocolOptions"

/-- The type of the protocol options. -/
def protocolOptionsTypeUrl : String := Proxy.typeUrl protocolOptionsKey

/-- The type of cluster messages. -/
def typeUrl : String := Proxy.typeUrl "envoy.config.cluster.v3.Cluster"

end ClusterMessage

/-- A secret as the proxy knows it. -/
structure SecretMessage where
  /-- The name. -/
  name : String
  /-- The certificate chain. -/
  certificateChain : List UInt8
  /-- The private key. -/
  privateKey : List UInt8
  deriving DecidableEq, Repr

/-- The type of secret messages. -/
def SecretMessage.typeUrl : String :=
  Proxy.typeUrl "envoy.extensions.transport_sockets.tls.v3.Secret"

/-! ### Routes -/

/-- Overrides of filters by the filters' names. -/
abbrev Overrides := OrderedMap String FilterOverride

/-- What is compared in a header. -/
inductive HeaderSpecifier
  /-- That it is there. -/
  | present
  /-- Its value. -/
  | value (matcher : StringMatcher)
  deriving DecidableEq, Repr

/-- A test of a header. -/
structure HeaderMatcher where
  /-- The name of the header. -/
  name : String
  /-- Whether the test has to fail. -/
  invert : Bool
  /-- What is compared. -/
  specifier : HeaderSpecifier
  deriving DecidableEq, Repr

/-- A cluster with its share of the requests. -/
structure WeightedCluster where
  /-- The name of the cluster. -/
  name : String
  /-- The share. -/
  weight : Nat
  /-- The overrides. -/
  overrides : Overrides

/-- The clusters that requests go to. -/
inductive ClusterSpecifier
  /-- One cluster. -/
  | cluster (name : String)
  /-- Several clusters with their shares. -/
  | weighted (clusters : List WeightedCluster)

/-- How failed requests are repeated. -/
structure RetryMessage where
  /-- Which failures are repeated. -/
  retryOn : String
  /-- The number of retries. -/
  numRetries : Nat
  /-- The time for one attempt. -/
  perTryTimeout : Option Duration
  deriving DecidableEq, Repr

/-- A cookie that requests are hashed by. -/
structure HashCookie where
  /-- The name of the cookie. -/
  name : String
  /-- How long the cookie is kept. -/
  ttl : Duration
  /-- The path of the cookie. -/
  path : String
  deriving DecidableEq, Repr

/-- How the requests of a route are forwarded. -/
structure RouteAction where
  /-- The clusters that requests go to. -/
  clusters : ClusterSpecifier
  /-- What replaces the matched beginning of the path; nothing when empty. -/
  prefixReplacement : String := ""
  /-- The time for a whole response. -/
  timeout : Option Duration := none
  /-- The time without any data. -/
  idleTimeout : Option Duration := none
  /-- The retries. -/
  retry : Option RetryMessage := none
  /-- What requests are hashed by. -/
  hashPolicy : List HashCookie := []
  /-- The protocols that connections may be upgraded to. -/
  upgrades : List String := []
  /-- The host header of forwarded requests. -/
  hostHeader : Option String := none
  /-- What is counted. -/
  rateLimits : List (List RateLimitAction) := []

/-- What happens to the requests of a route. -/
inductive Action
  /-- They are sent to TLS. -/
  | redirect
  /-- They are forwarded. -/
  | route (action : RouteAction)

/-- A route as the proxy knows it. -/
structure RouteMessage where
  /-- The test of the path. -/
  path : PathMatch
  /-- The tests of headers. -/
  headers : List HeaderMatcher
  /-- What happens to the requests. -/
  action : Action
  /-- The overrides. -/
  overrides : Overrides

/-- A host as the proxy knows it. -/
structure VirtualHostMessage where
  /-- The name. -/
  name : String
  /-- The host headers of its requests. -/
  domains : List String
  /-- The routes, of which the first that fits counts. -/
  routes : List RouteMessage
  /-- The overrides. -/
  overrides : Overrides

/-- The hosts of a listener. -/
structure RouteConfiguration where
  /-- The name. -/
  name : String
  /-- The hosts. -/
  virtualHosts : List VirtualHostMessage

/-- The type of route configurations. -/
def RouteConfiguration.typeUrl : String :=
  Proxy.typeUrl "envoy.config.route.v3.RouteConfiguration"

/-! ### Listeners -/

/-- A filter of a connection manager. -/
structure HttpFilterMessage where
  /-- The name. -/
  name : String
  /-- Whether the filter is off where nothing turns it on. -/
  disabled : Bool
  /-- Its configuration. -/
  config : HttpFilterConfig
  deriving DecidableEq, Repr

/-- What handles the requests of a connection. -/
structure ConnectionManager where
  /-- What the names of statistics begin with. -/
  statPrefix : String
  /-- The name of the route configuration. -/
  routeConfigName : String
  /-- The filters in their order. -/
  httpFilters : List HttpFilterMessage
  /-- The file that requests are logged to. -/
  accessLogPath : String
  /-- Whether the address of the other side counts as the client's. -/
  useRemoteAddress : Bool := true
  deriving DecidableEq, Repr

/-- The name of a log. -/
def ConnectionManager.accessLogName : String := "envoy.access_loggers.file"

/-- The type of a log. -/
def ConnectionManager.accessLogTypeUrl : String :=
  Proxy.typeUrl "envoy.extensions.access_loggers.file.v3.FileAccessLog"

/-- The clusters that connections are forwarded to. -/
inductive TcpClusters
  /-- One cluster. -/
  | cluster (name : String)
  /-- Several clusters with their shares. -/
  | weighted (clusters : List (String × Nat))
  deriving DecidableEq, Repr

/-- What handles a connection. -/
inductive NetworkFilter
  /-- The requests of the connection are handled one by one. -/
  | connectionManager (manager : ConnectionManager)
  /-- The connection is forwarded as a whole. -/
  | tcpProxy (statPrefix : String) (clusters : TcpClusters)
  deriving DecidableEq, Repr

namespace NetworkFilter

/-- The name of a filter. -/
def name : NetworkFilter → String
  | .connectionManager _ => "envoy.filters.network.http_connection_manager"
  | .tcpProxy .. => "envoy.filters.network.tcp_proxy"

/-- The type of a filter's configuration. -/
def typeUrl : NetworkFilter → String
  | .connectionManager _ => Proxy.typeUrl ("envoy.extensions.filters.network."
      ++ "http_connection_manager.v3.HttpConnectionManager")
  | .tcpProxy .. => Proxy.typeUrl "envoy.extensions.filters.network.tcp_proxy.v3.TcpProxy"

end NetworkFilter

/-- How some of the connections of a listener are handled. -/
structure FilterChain where
  /-- The server names of the connections; all connections when there are none. -/
  serverNames : Option (List String)
  /-- What handles the connections. -/
  filters : List NetworkFilter
  /-- The TLS settings. -/
  transportSocket : Option TransportSocket
  deriving DecidableEq, Repr

/-- A filter that looks at connections before a chain is chosen. -/
inductive ListenerFilter
  /-- Finds out the server name. -/
  | tlsInspector
  deriving DecidableEq, Repr

namespace ListenerFilter

/-- The name of a filter. -/
def name : ListenerFilter → String
  | .tlsInspector => "envoy.filters.listener.tls_inspector"

/-- The type of a filter's configuration. -/
def typeUrl : ListenerFilter → String
  | .tlsInspector =>
    Proxy.typeUrl "envoy.extensions.filters.listener.tls_inspector.v3.TlsInspector"

end ListenerFilter

/-- A listener as the proxy knows it. -/
structure ListenerMessage where
  /-- The name. -/
  name : String
  /-- The address that it is bound to. -/
  address : String
  /-- The number of the port that it is bound to. -/
  number : Nat
  /-- What looks at connections first. -/
  listenerFilters : List ListenerFilter
  /-- How connections are handled. -/
  filterChains : List FilterChain
  deriving DecidableEq, Repr

/-- The type of listener messages. -/
def ListenerMessage.typeUrl : String := Proxy.typeUrl "envoy.config.listener.v3.Listener"

/-! ### Snapshots -/

/-- All messages of one graph. -/
structure Snapshot where
  /-- The clusters. -/
  clusters : List ClusterMessage := []
  /-- The route configurations. -/
  routeConfigurations : List RouteConfiguration := []
  /-- The listeners. -/
  listeners : List ListenerMessage := []
  /-- The secrets. -/
  secrets : List SecretMessage := []

namespace Snapshot

/-- `s.isEmpty` says that there is no message at all in the snapshot `s`. -/
def isEmpty (s : Snapshot) : Bool :=
  s.clusters.isEmpty && s.routeConfigurations.isEmpty && s.listeners.isEmpty && s.secrets.isEmpty

/-- `s.cluster? name` is the cluster of that name in the snapshot `s`. -/
def cluster? (s : Snapshot) (name : String) : Option ClusterMessage :=
  s.clusters.find? fun m => m.name = name

/-- The route configuration of a name. -/
def routeConfiguration? (s : Snapshot) (name : String) : Option RouteConfiguration :=
  s.routeConfigurations.find? fun m => m.name = name

/-- `s.listener? name` is the listener of that name in the snapshot `s`. -/
def listener? (s : Snapshot) (name : String) : Option ListenerMessage :=
  s.listeners.find? fun m => m.name = name

/-- The secret of a name. -/
def secret? (s : Snapshot) (name : String) : Option SecretMessage :=
  s.secrets.find? fun m => m.name = name

/-- `s.lookups name` is the number of kinds of message of which one has the name. -/
def lookups (s : Snapshot) (name : String) : Nat :=
  (s.cluster? name).toList.length + (s.routeConfiguration? name).toList.length
    + (s.listener? name).toList.length + (s.secret? name).toList.length

/-- `s.resources` are the names of all messages with their types: clusters, route configurations,
listeners and secrets. -/
def resources (s : Snapshot) : List (String × String) :=
  s.clusters.map (fun m => (m.name, ClusterMessage.typeUrl))
    ++ s.routeConfigurations.map (fun m => (m.name, RouteConfiguration.typeUrl))
    ++ s.listeners.map (fun m => (m.name, ListenerMessage.typeUrl))
    ++ s.secrets.map (fun m => (m.name, SecretMessage.typeUrl))

end Snapshot

end GatewayCompiler.Proxy
