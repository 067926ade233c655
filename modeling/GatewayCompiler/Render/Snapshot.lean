import GatewayCompiler.Graph.Visit
import GatewayCompiler.Render.Listener

/-!
# A graph as messages

A walk over the graph meets the hosts, clusters and secrets.  Of those with the same name the first
one counts.

## Main definitions

* `Visit.clusters`, `Visit.secrets`, `Visit.plainHosts`, `Visit.servedHosts` — what is met at a
  place.
* `firstByName` — messages in the order of their names.
* `Graph.snapshot` — all messages of a graph.
-/

namespace GatewayCompiler

open Proxy

namespace Visit

/-- The host in plain text at a place. -/
def plainHost? : Visit → Option VirtualHost
  | .plainHost _ host => some host
  | _ => none

/-- `visit.servedHost? config` is the host over TLS at a place, with its chain if there is anything
to serve. -/
def servedHost? (config : ProxyConfig) : Visit → Option (SecureHost × FilterChain)
  | .secureHost _ host => (host.chain? config).map (host, ·)
  | _ => none

/-- The cluster at a place. -/
def cluster? : Visit → Option Cluster
  | .cluster c => some c
  | _ => none

/-- `visit.secret? config` is the secret at a place: that of a host that is served, or the one shown
to a cluster. -/
def secret? (config : ProxyConfig) : Visit → Option KeyMaterial
  | .secureHost _ host => if (host.chain? config).isSome then host.certificate else none
  | .cluster c => c.clientCertificate
  | _ => none

end Visit

/-- `firstByName messages` are the messages in the order of their names; of those with the same name
the first one counts. -/
def firstByName {μ : Type} (messages : List (String × μ)) : List μ :=
  (messages.foldl (fun m p => m.insertNew p.1 p.2) (OrderedMap.empty : OrderedMap String μ)).values

/-- `plainPart config hosts` are the listener and the route configuration in plain text, if there is
a host. -/
def plainPart (config : ProxyConfig) (hosts : List VirtualHost) :
    List ListenerMessage × List RouteConfiguration :=
  if hosts.isEmpty then ([], [])
  else ([plainListener config hosts],
    [routeConfiguration ListenerRole.plain.name (hosts.map (VirtualHost.message .plain))])

/-- `securePart config served` are the listener and the route configuration over TLS, if there is a
host that is served.  Hosts that forward whole connections have no routes. -/
def securePart (config : ProxyConfig) (served : List (SecureHost × FilterChain)) :
    List ListenerMessage × List RouteConfiguration :=
  let routed := (served.map Prod.fst).filter fun h => h.host.tcpProxy.isNone
  if served.isEmpty then ([], [])
  else ([secureListener config (served.map Prod.snd)],
    if routed.isEmpty then []
    else [routeConfiguration ListenerRole.secure.name
      (routed.map fun h => h.host.message .secure)])

/-- `g.snapshot config` are all messages of a graph, collected from its `visits`. -/
def Graph.snapshot (config : ProxyConfig) (g : Graph) : Snapshot :=
  let visits := g.visits
  let plain := plainPart config (visits.filterMap Visit.plainHost?)
  let secure := securePart config (visits.filterMap (Visit.servedHost? config))
  { clusters := firstByName ((visits.filterMap Visit.cluster?).map fun c =>
      (c.messageName, c.message config))
    routeConfigurations := plain.2 ++ secure.2
    listeners := plain.1 ++ secure.1
    secrets := firstByName ((visits.filterMap (Visit.secret? config)).map fun k =>
      (k.messageName, k.message)) }

end GatewayCompiler
