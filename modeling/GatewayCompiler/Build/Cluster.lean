import GatewayCompiler.Build.Lookup
import GatewayCompiler.Filter.Settings
import GatewayCompiler.Graph.Conditions

/-!
# Clusters and routes

The services and filters that a route names are looked up in the cache.  What cannot be found is
left out and reported.

## Main definitions

* `resolveFilters` — the filters that references mean, with the problems met.
* `buildCluster`, `buildRoute` — a cluster and a route, with the problems met.
-/

namespace GatewayCompiler.Build

/-! ### Filters -/

/-- `resolveFilter cache scope space ref` is the filter that the reference `ref` of an object of the
namespace `space` means at `scope`, or the problem with it. -/
def resolveFilter (cache : Cache) (scope : FilterScope) (space : String) (ref : FilterRef) :
    Except Problem Filter :=
  let target := ref.target space
  match cache.filterObject? scope target with
  | none => .error (.filterMissing scope target)
  | some object =>
    let filter : Filter := ⟨target.name, object.kind, object.config⟩
    match filter.settings scope with
    | .error e => .error (.badFilter target e)
    | .ok _ => .ok filter

/-- `resolveFilters cache scope space refs` are the filters that the references `refs` mean, and the
problems with the others.  A reference that means nothing does not keep the others from being
resolved. -/
def resolveFilters (cache : Cache) (scope : FilterScope) (space : String) (refs : List FilterRef) :
    List Filter × List Problem :=
  let found := refs.map (resolveFilter cache scope space)
  (found.filterMap Except.toOption, found.filterMap fun r =>
    match r with
    | .ok _ => none
    | .error problem => some problem)

/-! ### Clusters -/

/-- `givenProtocol s` is the protocol that the service `s` is given, if any; a name that is no
protocol is a problem. -/
def givenProtocol (s : ServiceSpec) : Except Problem (Option Protocol) :=
  match s.protocol with
  | none => .ok none
  | some text =>
    match Protocol.ofText? text with
    | some protocol => .ok (some protocol)
    | none => .error (.unknownProtocol s.name text)

/-- `checkService s` checks that the number and the weight of the service `s` are in range. -/
def checkService (s : ServiceSpec) : Except Problem Unit :=
  if ¬ (1 ≤ s.number ∧ s.number ≤ 65535) then .error (.portOutOfRange s.name)
  else if s.weight < 0 then .error (.negativeWeight s.name)
  else .ok ()

/-- The verification of the certificate of the service `s`, where it is asked for.  The authorities
are those of a secret of the namespace `space` unless the reference names another one. -/
def buildValidation (cache : Cache) (space : String) (s : ServiceSpec) :
    Attempt (Option ServerValidation) :=
  match s.serverValidation with
  | none => return none
  | some validation => do
    let secret := Identity.ofReference validation.caSecret space
    match ← lookupCaBundle cache secret with
    | none => throw (.badCa s.name s.number secret)
    | some ca =>
      if Text.isBlankText validation.subjectName then throw (.noSubject s.name s.number)
      else return some ⟨ca, validation.subjectName⟩

/-- The certificate that is shown to the service `s`, where it is asked for. -/
def buildClientCertificate (cache : Cache) (space : String) (s : ServiceSpec) :
    Attempt (Option KeyMaterial) :=
  match s.clientSecret with
  | none => return none
  | some reference => do
    let secret := Identity.ofReference reference space
    match ← lookupKeypair cache secret with
    | none => throw (.badClientSecret s.name s.number secret)
    | some keys => return some keys

/-- `buildHealthCheck h` is the health check of a service, as its specification has it; an empty
host is none. -/
def buildHealthCheck (h : HealthCheckSpec) : HealthCheck where
  path := h.path
  host := nonEmpty? h.host
  intervalSeconds := h.intervalSeconds
  timeoutSeconds := h.timeoutSeconds
  unhealthyThreshold := h.unhealthyThreshold
  healthyThreshold := h.healthyThreshold

/-- `buildCluster cache space s` is the cluster for the service `s`, with the problems of its
filters.  Certificates matter only for backends that speak TLS. -/
def buildCluster (cache : Cache) (space : String) (s : ServiceSpec) :
    Attempt (Cluster × List Problem) := do
  checkService s
  let protocol ← givenProtocol s
  match ← lookupBackend cache ⟨space, s.name⟩ (.number s.number) protocol with
  | none => throw (.serviceMissing s.name s.number)
  | some backend =>
    -- secrets that no TLS needs are neither looked up nor checked
    let overTls := backend.protocol = .tls
    let validation ← if overTls then buildValidation cache space s else pure none
    let certificate ← if overTls then buildClientCertificate cache space s else pure none
    let (filters, problems) := resolveFilters cache .cluster space s.filters
    let cluster := {
      Cluster.ofBackend backend with
      strategy := .ofText s.strategy
      weight := min s.weight.toNat maxShare
      healthCheck := s.healthCheck.map buildHealthCheck
      serverValidation := validation
      clientCertificate := certificate
      filters }
    return (cluster, problems)

/-- The clusters for services, in their order, and the problems met.  A service with a problem gets
no cluster. -/
def buildClusters (cache : Cache) (space : String) :
    List ServiceSpec → StateM Lookups (List Cluster × List Problem)
  | [] => return ([], [])
  | s :: rest => do
    let built ← (buildCluster cache space s).run
    let (clusters, problems) ← buildClusters cache space rest
    match built with
    | .ok (cluster, found) => return (cluster :: clusters, found ++ problems)
    | .error problem => return (clusters, problem :: problems)

/-! ### Routes -/

/-- The route that sends the requests under `conditions` to `clusters`, with the policies of the
entry `spec`. -/
def routeOf (spec : RouteSpec) (conditions : List Condition) (filters : List Filter)
    (clusters : List Cluster) : Route where
  path := mergePath conditions
  headers := mergeHeaders conditions
  clusters := clusters
  websocket := spec.websockets
  prefixReplacement := nonEmpty? spec.prefixReplacement
  retry := spec.retry.map RetryPolicy.ofSpec
  timeout := spec.timeout.map TimeoutPolicy.ofSpec
  filters := filters
  skipAuthorization := spec.skipAuthorization

/-- `buildRoute cache space spec conditions` is the route of an entry with services, and the
problems met.  A route without clusters is dropped. -/
def buildRoute (cache : Cache) (space : String) (spec : RouteSpec) (conditions : List Condition) :
    StateM Lookups (Option Route × List Problem) := do
  if spec.services = [] then return (none, [.emptyRoute])
  let (filters, filterProblems) := resolveFilters cache .route space spec.filters
  let (clusters, problems) ← buildClusters cache space spec.services
  let route := if clusters.isEmpty then none else some (routeOf spec conditions filters clusters)
  return (route, filterProblems ++ problems)

end GatewayCompiler.Build
