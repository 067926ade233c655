import GatewayCompiler.Build.Cluster
import GatewayCompiler.Build.Walk
import GatewayCompiler.Graph.Visit

/-!
# The state of a build

## Main definitions

* `Building` — the hosts, the look-ups, the statuses and the orphans so far.
* `Building.onPlainHost`, `Building.onSecureHost` — a change of a host, which is made when needed.
* `Building.attach` — a route on its host.
* `Building.take`, `Building.takeAll` — the steps of a walk.
-/

namespace GatewayCompiler.Build

/-- What a build has come to so far. -/
structure Building where
  /-- The hosts in plain text. -/
  plain : OrderedMap String VirtualHost := {}
  /-- The hosts over TLS. -/
  secure : OrderedMap String SecureHost := {}
  /-- What was looked up so far. -/
  lookups : Lookups := {}
  /-- The statuses. -/
  statuses : Ledger Status := {}
  /-- The hosts without a virtual host that no delegation has led to so far. -/
  orphans : OrderedMap Identity Unit := {}
  /-- The service routes that were merged so far. -/
  merged : OrderedMap Identity Unit := {}

/-- The host that a root serves, and whether its routes are served over TLS. -/
structure Place where
  /-- The name of the host. -/
  host : String
  /-- Whether routes are served over TLS. -/
  enforceTls : Bool

namespace Building

/-- `b.onPlainHost name change` changes the host `name` in plain text, which is made if it is not
there. -/
def onPlainHost (name : String) (change : VirtualHost → VirtualHost) (b : Building) : Building :=
  { b with plain := b.plain.insert name (change ((b.plain.find? name).getD { name })) }

/-- `b.onSecureHost name change` changes the host `name` over TLS, which is made if it is not
there. -/
def onSecureHost (name : String) (change : SecureHost → SecureHost) (b : Building) : Building :=
  { b with
    secure := b.secure.insert name
      (change ((b.secure.find? name).getD { host := { name } })) }

/-- Record an outcome for `object`, unless there is one already: the first outcome of an object
counts. -/
def settle (object : ObjectRef) (outcome : Outcome) (host : String) (b : Building) : Building :=
  { b with statuses := b.statuses.record object ⟨outcome, host⟩ }

/-- Record `problems` with an object, of which only the first can become its status. -/
def report (object : ObjectRef) (problems : List Problem) (host : String) (b : Building) :
    Building :=
  problems.foldl (fun b p => b.settle object (.invalid p) host) b

/-- A delegation leads to a host, so that it is no orphan. -/
def reach (target : Identity) (b : Building) : Building :=
  { b with orphans := b.orphans.erase target }

/-- The routes of a service route are merged. -/
def merge (identity : Identity) (b : Building) : Building :=
  { b with merged := b.merged.insert identity () }

/-- `b.look action` looks something up, and keeps what is remembered then. -/
def look {α : Type} (action : StateM Lookups α) (b : Building) : α × Building :=
  let (found, lookups) := action.run b.lookups
  (found, { b with lookups })

/-- Attach a route to its host.  In plain text it is sent to TLS where TLS is enforced, unless
`permitInsecure` permits plain text. -/
def attach (place : Place) (route : Route) (permitInsecure : Bool) (b : Building) : Building :=
  let plainRoute := { route with httpsUpgrade := place.enforceTls && !permitInsecure }
  let b := b.onPlainHost place.host (·.addRoute plainRoute)
  if place.enforceTls then
    b.onSecureHost place.host fun h => { h with host := h.host.addRoute route }
  else b

/-- Serve a route of `object`: what `buildRoute` makes is attached, and its problems are
reported. -/
def serve (cache : Cache) (place : Place) (object : ObjectRef) (spec : RouteSpec)
    (conditions : List Condition) (b : Building) : Building :=
  let ((route, problems), b) := b.look (buildRoute cache object.identity.space spec conditions)
  let b := b.report object problems place.host
  match route with
  | none => b
  | some route => b.attach place route spec.permitInsecure

/-- The clusters that connections are forwarded to; the first service that is missing ends the
search. -/
def forwardClusters (cache : Cache) (space : String) :
    List ServiceSpec → StateM Lookups (Except Problem (List Cluster))
  | [] => return .ok []
  | s :: rest => do
    match ← lookupPort cache ⟨space, s.name⟩ (.number s.number) with
    | none => return .error (.tcpServiceMissing ⟨space, s.name⟩ s.number)
    | some resolved =>
      let cluster : Cluster := {
        -- of the service only the strategy is taken over
        Cluster.ofBackend ⟨resolved.target, .tcp⟩ with strategy := .ofText s.strategy }
      return (← forwardClusters cache space rest).map (cluster :: ·)

/-- Forward the connections of a host to the `services` of an object, if all of them are there. -/
def forward (cache : Cache) (place : Place) (owner : Identity) (services : List ServiceSpec)
    (b : Building) : Building :=
  let (clusters, b) := b.look (forwardClusters cache owner.space services)
  match clusters with
  | .error problem => b.settle (hostRef owner) (.invalid problem) place.host
  | .ok clusters =>
    (b.onSecureHost place.host fun h => { h with host := { h.host with tcpProxy := some clusters } })
      |>.settle (hostRef owner) (.valid .gatewayHost) place.host

/-- `b.take cache place s` does the step `s` of a walk. -/
def take (cache : Cache) (place : Place) (b : Building) : Step → Building
  | .serve object route conditions => b.serve cache place object route conditions
  | .forward owner services => b.forward cache place owner services
  | .settle object outcome => b.settle object outcome place.host
  | .reach target => b.reach target
  | .merge identity => b.merge identity

/-- `b.takeAll cache place steps` does all steps of a walk, in their order. -/
def takeAll (cache : Cache) (place : Place) (steps : List Step) (b : Building) : Building :=
  steps.foldl (take cache place) b

end Building

end GatewayCompiler.Build
