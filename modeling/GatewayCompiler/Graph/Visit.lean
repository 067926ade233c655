import GatewayCompiler.Graph.Basic
import GatewayCompiler.Graph.Status

/-!
# Walking over a graph

## Main definitions

* `Graph` — the listeners with the statuses of the routing objects.
* `Visit` — a place that a walk comes to.
* `Graph.visits` — all places in their order, from listeners down to clusters.
-/

namespace GatewayCompiler

/-- What a build comes to: the listeners and the statuses. -/
structure Graph where
  /-- The listeners. -/
  listeners : List Listener
  /-- The statuses. -/
  statuses : Ledger Status

namespace Graph

/-- `ofListeners listeners statuses` is the graph of the listeners that are left after pruning. -/
def ofListeners (listeners : List Listener) (statuses : Ledger Status) : Graph :=
  ⟨(listeners.map Listener.prune).filter fun l => !l.hosts.isEmpty, statuses⟩

/-- `g.listener? role` is the listener of a role. -/
def listener? (g : Graph) (role : Nat) : Option Listener :=
  g.listeners.find? fun l => l.role = role

end Graph

/-- A place that a walk over a graph comes to. -/
inductive Visit
  /-- A listener. -/
  | listener (listener : Listener)
  /-- A host in plain text. -/
  | plainHost (listener : Listener) (host : VirtualHost)
  /-- A host over TLS. -/
  | secureHost (listener : Listener) (host : SecureHost)
  /-- A route. -/
  | route (route : Route)
  /-- The backends of forwarded connections. -/
  | tcpProxy (clusters : List Cluster)
  /-- A cluster. -/
  | cluster (cluster : Cluster)

namespace Visit

/-- `ofRoute r` are a route and its clusters. -/
def ofRoute (r : Route) : List Visit := .route r :: r.clusters.map .cluster

/-- The forwarding of a host with its clusters. -/
def ofTcpProxy : Option (List Cluster) → List Visit
  | none => []
  | some clusters => .tcpProxy clusters :: clusters.map .cluster

/-- The host itself. -/
def ofHost (l : Listener) : Host → Visit
  | .plain host => .plainHost l host
  | .secure host => .secureHost l host

/-- `allOfHost l h` are a host, its routes and its forwarding, each with its clusters. -/
def allOfHost (l : Listener) (h : Host) : List Visit :=
  ofHost l h :: (h.virtualHost.routes.values.flatMap ofRoute ++ ofTcpProxy h.virtualHost.tcpProxy)

/-- `ofListener l` are a listener and all of its hosts. -/
def ofListener (l : Listener) : List Visit :=
  .listener l :: l.hosts.values.flatMap (allOfHost l)

end Visit

/-- `g.visits` are all places of a graph in their order.  What a snapshot collects from a graph, it
collects from these. -/
def Graph.visits (g : Graph) : List Visit := g.listeners.flatMap Visit.ofListener

end GatewayCompiler
