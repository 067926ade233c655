import GatewayCompiler.Render.Cluster
import GatewayCompiler.Render.FilterChain

/-!
# Hosts and routes as messages

## Main definitions

* `ListenerRole` — plain text or TLS.
* `Route.message` — a route as the proxy knows it.
* `Route.before` — the order in which the routes of a host are tried.
* `VirtualHost.message`, `routeConfiguration` — a host and the hosts of a listener.
* `VirtualHost.routeEntries` — the filters that the routes of a host need.
-/

namespace GatewayCompiler

open Proxy

/-- Which listener a host is rendered for. -/
inductive ListenerRole
  /-- Plain text. -/
  | plain
  /-- TLS. -/
  | secure
  deriving DecidableEq, Repr

/-- The name of the listener and of its route configuration. -/
def ListenerRole.name : ListenerRole → String
  | .plain => "ingress_http"
  | .secure => "ingress_https"

/-! ### Actions -/

/-- A header test as the proxy knows it. -/
def HeaderMatch.message (h : HeaderMatch) : HeaderMatcher where
  name := h.name
  invert := h.invert
  specifier :=
    match h.kind with
    | .present => .present
    | .exact => .value (.exact h.value)
    | .contains => .value (.contains h.value)

/-- A retry policy as the proxy knows it. -/
def RetryPolicy.message (p : RetryPolicy) : RetryMessage :=
  ⟨p.retryOn, p.numRetries, Duration.ofTimeout p.perTryTimeout⟩

/-- `applyTimeouts p a` is the action `a` with the timeouts of the policy `p`. -/
def applyTimeouts (p : TimeoutPolicy) (a : RouteAction) : RouteAction :=
  { a with timeout := Duration.ofTimeout p.response, idleTimeout := Duration.ofTimeout p.idle }

/-- `applySettings a settings` is the action `a` with what the settings of a filter change about it.
Most kinds of filters do their work in connection managers and leave actions alone. -/
def applySettings (a : RouteAction) : FilterSettings → RouteAction
  | .retry s => { a with retry := some (RetryPolicy.ofSettings s).message }
  | .timeout s => applyTimeouts (.ofSettings s) a
  | .hostHeader host => { a with hostHeader := some host }
  | .rateLimit s => { a with rateLimits := a.rateLimits ++ s.routeActions.toList }
  | .lua _ | .compression _ | .grpcWeb | .cors _ => a

/-- `applyFilter a f` is the action `a` with what the filter `f` changes about it.  The settings of
`f` are read as those of a route; if they are bad, nothing is changed. -/
def applyFilter (a : RouteAction) (f : Filter) : RouteAction :=
  match f.settings .route with
  | .ok settings => applySettings a settings
  | .error _ => a

/-- `shares clusters` are the clusters with their shares of the requests: their weights, or equal
shares of one when no weight is given. -/
def shares (clusters : List Cluster) : List (Cluster × Nat) :=
  let uniform := clusters.all fun c => c.weight = 0
  clusters.map fun c => (c, if uniform then 1 else c.weight)

/-- `addShare known share` are the clusters by name with one more, `share`.  The shares of clusters
of one name add up, as far as `maxShare`; what is changed about filters stays that of the first
one. -/
def addShare (known : OrderedMap String WeightedCluster) (share : Cluster × Nat) :
    OrderedMap String WeightedCluster :=
  let name := share.1.messageName
  match known.find? name with
  | none => known.insert name ⟨name, share.2, overrides share.1.filters .cluster⟩
  -- the filters of this cluster are not looked at again
  | some entry => known.insert name { entry with weight := min (entry.weight + share.2) maxShare }

/-- `clusterSpecifier clusters` are the clusters that requests go to: a single one by its name, and
otherwise the weighted names. -/
def clusterSpecifier : List Cluster → ClusterSpecifier
  | [only] => .cluster only.messageName
  | clusters => .weighted ((shares clusters).foldl addShare {}).values

/-- `soleFilters clusters` are the filters of the only cluster of a route, and none where there are
several. -/
def soleFilters : List Cluster → List Filter
  | [only] => only.filters
  | _ => []

/-- The cookie that keeps a client at its endpoint. -/
def affinityCookie : HashCookie := ⟨"X-Switchyard-Session-Affinity", .zero, "/"⟩

/-- `r.baseAction` is how the requests of a route are forwarded, before its filters. -/
def Route.baseAction (r : Route) : RouteAction :=
  let action : RouteAction := {
    clusters := clusterSpecifier r.clusters
    prefixReplacement := r.prefixReplacement.getD ""
    retry := r.retry.map RetryPolicy.message
    hashPolicy := if r.clusters.any fun c => c.strategy = .cookie then [affinityCookie] else []
    upgrades := if r.websocket then ["websocket"] else [] }
  match r.timeout with
  | none => action
  | some policy => applyTimeouts policy action

/-- `r.action` is how the requests of a route are forwarded, with its own filters and those of its
only cluster. -/
def Route.action (r : Route) : RouteAction :=
  (r.filters ++ soleFilters r.clusters).foldl applyFilter r.baseAction

/-! ### Routes -/

/-- The name of the filter that asks elsewhere whether a request is authorized. -/
def authorizationFilterName : String := "envoy.filters.http.ext_authz"

/-- `r.overrides` is what a route changes about filters of the connection manager. -/
def Route.overrides (r : Route) : Overrides :=
  let all := (GatewayCompiler.overrides r.filters .route).toList
    ++ (GatewayCompiler.overrides (soleFilters r.clusters) .cluster).toList
    ++ if r.skipAuthorization then [(authorizationFilterName, .authorizationDisabled)] else []
  .ofList all

/-- `r.message role` is a route as the proxy knows it.  In plain text a route may be sent to TLS
instead. -/
def Route.message (role : ListenerRole) (r : Route) : RouteMessage where
  path := r.path
  headers := r.headers.map HeaderMatch.message
  action := if role = .plain ∧ r.httpsUpgrade then .redirect else .route r.action
  overrides := r.overrides

/-- `a.order b` is the order in which the routes of a host are tried: patterns first, then longer
texts, then more header tests, and by key among the rest. -/
def Route.order (a b : Route) : Ordering :=
  (compare (!a.path.isRegex) (!b.path.isRegex)).then <|
  (compare b.path.value.utf8ByteSize a.path.value.utf8ByteSize).then <|
  (compare b.headers.length a.headers.length).then <|
  compare a.key b.key

/-- `a.before b` says that a route is tried before another one, or both at the same place. -/
def Route.before (a b : Route) : Bool := (a.order b).isLE

/-! ### Hosts -/

/-- `hostMessageName host` is the name of a host as the proxy knows it: itself, or digits of its
digest if it is too long. -/
def hostMessageName (host : String) : String := hashname nameLimit [host]

/-- `hostDomains host` are the host headers of a host: with any port number or none. -/
def hostDomains (host : String) : List String :=
  if host = wildcardHost then [host] else [host, host ++ ":*"]

namespace VirtualHost

/-- `h.message role` is a host as the proxy knows it.  In plain text all hosts share a connection
manager, in which each of them turns its own filters on. -/
def message (role : ListenerRole) (h : VirtualHost) : VirtualHostMessage where
  name := hostMessageName h.name
  domains := hostDomains h.name
  routes := (h.routes.values.mergeSort Route.before).map (Route.message role)
  overrides :=
    match role with
    | .plain => GatewayCompiler.overrides h.filters .virtualHost
    | .secure => {}

/-- `entriesOfRoute r` are the filters that a route needs in its connection manager, all of them
off. -/
def entriesOfRoute (r : Route) : List ChainEntry :=
  r.filters.filterMap (·.inChain? .route true)
    ++ r.clusters.flatMap fun c => c.filters.filterMap (·.inChain? .cluster true)

/-- `h.routeEntries` are the filters that the routes of a host need in its connection manager, all
of them off. -/
def routeEntries (h : VirtualHost) : List ChainEntry := h.routes.values.flatMap entriesOfRoute

end VirtualHost

/-- `routeConfiguration name hosts` are the hosts of a listener in the order of their names. -/
def routeConfiguration (name : String) (hosts : List VirtualHostMessage) : RouteConfiguration :=
  ⟨name, hosts.mergeSort fun a b => (compare a.name b.name).isLE⟩

end GatewayCompiler
