import GatewayCompiler.Render.Route

/-!
# Listeners as messages

In plain text one connection manager serves all hosts.  Over TLS every host has a chain of its own,
which is chosen by the server name.

## Main definitions

* `connectionManager` — what handles the requests of a listener.
* `tcpProxyFilter` — what forwards whole connections.
* `plainListener`, `secureListener` — the two listeners.
* `SecureHost.chain?` — the chain of a host over TLS.
-/

namespace GatewayCompiler

open Proxy

/-- `connectionManager role entries config` is what handles the requests of a listener, with the
filters of `entries`. -/
def connectionManager (role : ListenerRole) (entries : List ChainEntry) (config : ProxyConfig) :
    NetworkFilter :=
  .connectionManager {
    statPrefix := role.name
    routeConfigName := role.name
    httpFilters := httpFilters entries
    accessLogPath := config.accessLogPath }

/-- `tcpClusters clusters` are the clusters that connections are forwarded to, in the order of their
names. -/
def tcpClusters : List Cluster → TcpClusters
  | [only] => .cluster only.messageName
  | clusters =>
    .weighted (((shares clusters).map fun s => (s.1.messageName, s.2)).mergeSort fun a b =>
      (compare a.1 b.1).isLE)

/-- What forwards whole connections. -/
def tcpProxyFilter (statPrefix : String) (clusters : List Cluster) : NetworkFilter :=
  .tcpProxy statPrefix (tcpClusters clusters)

/-! ### Plain text -/

/-- `h.plainEntries` are the filters that a host in plain text needs, all of them off. -/
def VirtualHost.plainEntries (h : VirtualHost) : List ChainEntry :=
  h.filters.filterMap (·.inChain? .virtualHost true) ++ h.routeEntries

/-- `plainEntries config hosts` are the filters of the plain text listener: the default ones, which
are on, and those of all hosts. -/
def plainEntries (config : ProxyConfig) (hosts : List VirtualHost) : List ChainEntry :=
  config.defaultHttpFilters.filterMap (·.inChain? .virtualHost false)
    ++ hosts.flatMap VirtualHost.plainEntries

/-- The plain text listener. -/
def plainListener (config : ProxyConfig) (hosts : List VirtualHost) : ListenerMessage where
  name := ListenerRole.plain.name
  address := config.httpAddress
  number := config.httpPort
  listenerFilters := []
  filterChains := [{
    serverNames := none
    filters := [connectionManager .plain (plainEntries config hosts) config]
    transportSocket := none }]

/-! ### TLS -/

/-- `serverSocket certificate minVersion` are the TLS settings of a host with a certificate. -/
def serverSocket (certificate : KeyMaterial) (minVersion : MinTlsVersion) : TransportSocket :=
  .server {
    minVersion := some minVersion.protocolName
    alpnProtocols := ["h2", "http/1.1"]
    certificates := [certificate.messageName] }

namespace SecureHost

/-- `h.entries config` are the filters of a host over TLS: those of every host, or the host's own of
the same name, and those that its routes need. -/
def entries (config : ProxyConfig) (h : SecureHost) : List ChainEntry :=
  (mergeByName [config.defaultHttpFilters, h.host.filters]).values.filterMap
      (·.inChain? .virtualHost false)
    ++ h.host.routeEntries

/-- `h.networkFilter? config` is what handles the connections of a host, if there is anything to
serve. -/
def networkFilter? (config : ProxyConfig) (h : SecureHost) : Option NetworkFilter :=
  match h.host.tcpProxy with
  | some clusters => some (tcpProxyFilter ListenerRole.secure.name clusters)
  | none =>
    if !h.host.routes.isEmpty && h.certificate.isSome then
      some (connectionManager .secure (h.entries config) config)
    else none

/-- `h.chain? config` is the chain of a host, which is chosen by its name, if there is anything to
serve. -/
def chain? (config : ProxyConfig) (h : SecureHost) : Option FilterChain := do
  let filter ← h.networkFilter? config
  return {
    serverNames := some [h.host.name]
    filters := [filter]
    transportSocket := h.certificate.map fun k => serverSocket k h.minVersion }

end SecureHost

/-- The TLS listener. -/
def secureListener (config : ProxyConfig) (chains : List FilterChain) : ListenerMessage where
  name := ListenerRole.secure.name
  address := config.httpsAddress
  number := config.httpsPort
  listenerFilters := [.tlsInspector]
  filterChains := chains

end GatewayCompiler
