import GatewayCompiler.Cache
import GatewayCompiler.Graph.Status

/-!
# Delegation

The routes of a root continue in the hosts that it delegates to, and so does the forwarding of
whole connections.  Which objects take part, and in which order, depends on the hosts of the cache
alone.  A walk over them therefore answers with a list of steps, and what the steps do to the graph
is left to the build.

A walk carries the chain of the hosts between the root and the host at hand.  It never enters a host
of the chain again, so it ends after at most as many delegations as there are hosts.

## Main definitions

* `Step` — what a walk asks the build to do.
* `routeSteps` — the walk over routes.
* `tcpSteps` — the walk over forwardings.
* `unvisited` — the hosts that a chain may still enter.

## Main statements

* `length_unvisited_lt` — entering a host leaves fewer of them.
-/

namespace GatewayCompiler.Build

/-- What a walk asks the build to do.  A walk is a list of steps, so that it can be looked at
without a build. -/
inductive Step
  /-- Serve a route under the conditions of the whole chain. -/
  | serve (object : ObjectRef) (route : RouteSpec) (conditions : List Condition)
  /-- Forward connections to services. -/
  | forward (owner : Identity) (services : List ServiceSpec)
  /-- A delegation leads to a host. -/
  | reach (target : Identity)
  /-- The routes of a service route are merged. -/
  | merge (identity : Identity)
  /-- Record an outcome. -/
  | settle (object : ObjectRef) (outcome : Outcome)

/-- `hostRef identity` is the status object of a host. -/
def hostRef (identity : Identity) : ObjectRef := ⟨identity, .gatewayHost⟩

/-- The step that finds fault with a host. -/
def Step.reject (owner : Identity) (problem : Problem) : Step :=
  .settle (hostRef owner) (.invalid problem)

/-- The step that finds a host in order. -/
def Step.accept (owner : Identity) : Step := .settle (hostRef owner) (.valid .gatewayHost)

/-- `unvisited hosts chain` are the hosts that are not on `chain`.  Their number is what a walk ends
by. -/
def unvisited (hosts : OrderedMap Identity GatewayHost) (chain : List Identity) : List Identity :=
  hosts.keys.filter fun i => i ∉ chain

/-- A host that is entered for the first time is no longer among the `unvisited` ones. -/
theorem length_unvisited_lt {hosts : OrderedMap Identity GatewayHost} {chain : List Identity}
    {target : Identity} {child : GatewayHost} (hfind : hosts.find? target = some child)
    (hnew : target ∉ chain) :
    (unvisited hosts (chain ++ [target])).length < (unvisited hosts chain).length := by
  have hmem : target ∈ unvisited hosts chain := by
    simp only [unvisited, List.mem_filter, decide_eq_true_eq]
    exact ⟨List.mem_map.mpr ⟨_, OrderedMap.mem_of_find?_eq_some hfind, rfl⟩, hnew⟩
  have hfilter : unvisited hosts (chain ++ [target])
      = (unvisited hosts chain).filter fun i => i ≠ target := by
    simp only [unvisited, List.filter_filter]
    congr 1
    funext i
    simp [and_comm]
  have hle := List.length_filter_le (fun i => decide (i ≠ target)) (unvisited hosts chain)
  rw [hfilter]
  refine Nat.lt_of_le_of_ne hle fun h => ?_
  have := List.length_filter_eq_length_iff.mp h target hmem
  simp at this

/-- `checkRoute route` checks that the conditions of a route are well-formed, and that it does not
have both services and a delegate. -/
def checkRoute [Pattern.Engine] (route : RouteSpec) : Except Problem Unit :=
  match checkConditions route.conditions with
  | .error e => .error (.badConditions e)
  | .ok _ =>
    if route.delegate.isSome ∧ route.services ≠ [] then .error .servicesAndDelegate else .ok ()

/-- The steps for the routes of a host.  The `chain` ends with the host itself; `inherited` are the
conditions on the way to it, and `finish` is done when all of its routes are in order. -/
def routeSteps [Pattern.Engine] (hosts : OrderedMap Identity GatewayHost) (finish : List Step)
    (chain : List Identity) (owner : Identity) (inherited : List Condition) :
    List RouteSpec → List Step
  | [] => finish ++ [.accept owner]
  | route :: rest =>
    match checkRoute route with
    | .error problem => [.reject owner problem]
    | .ok _ =>
      match route.delegate with
      | none =>
        .serve (hostRef owner) route (inherited ++ route.conditions)
          :: routeSteps hosts finish chain owner inherited rest
      | some delegate =>
        if hasRegex route.conditions then [.reject owner .regexDelegated]
        else
          match _hfind : hosts.find? (delegate.target owner.space) with
          -- a delegate that is not there is passed over, without a word about the host
          | none => routeSteps hosts finish chain owner inherited rest
          | some child =>
            .reach (delegate.target owner.space) ::
              if _hseen : delegate.target owner.space ∈ chain then
                [.reject owner (.routeCycle (chain ++ [delegate.target owner.space]))]
              else if child.virtualHost.isSome then
                [.reject owner (.delegateIsRoot (delegate.target owner.space))]
              else
                -- only the root's own list ends with `finish`
                routeSteps hosts [] (chain ++ [delegate.target owner.space])
                    (delegate.target owner.space) (inherited ++ route.conditions) child.routes
                  ++ routeSteps hosts finish chain owner inherited rest
termination_by routes => ((unvisited hosts chain).length, routes.length)
-- an entry of the same host leaves fewer entries, one of a delegate fewer hosts to enter
decreasing_by
  · exact Prod.Lex.right _ (Nat.lt_succ_self _)
  · exact Prod.Lex.right _ (Nat.lt_succ_self _)
  · exact Prod.Lex.left _ _ (length_unvisited_lt _hfind _hseen)
  · exact Prod.Lex.right _ (Nat.lt_succ_self _)

/-- The steps for the forwarding of a host.  The `chain` ends with the host itself. -/
def tcpSteps (hosts : OrderedMap Identity GatewayHost) (chain : List Identity) (owner : Identity)
    (proxy : Option TcpProxySpec) : List Step :=
  match proxy with
  | none => [.reject owner .noTcpProxy]
  | some proxy =>
    if proxy.services ≠ [] then
      if proxy.delegate.isSome then [.reject owner .tcpServicesAndDelegate]
      else [.forward owner proxy.services]
    else
      match proxy.delegate with
      | none => [.reject owner .emptyTcpProxy]
      | some delegate =>
        match _hfind : hosts.find? (delegate.target owner.space) with
        | none => [.reject owner (.tcpDelegateMissing (delegate.target owner.space))]
        | some child =>
          .reach (delegate.target owner.space) ::
            if _hseen : delegate.target owner.space ∈ chain then
              [.reject owner (.tcpCycle (chain ++ [delegate.target owner.space]))]
            else
              tcpSteps hosts (chain ++ [delegate.target owner.space])
                  (delegate.target owner.space) child.tcpProxy
                -- the host is in order whatever the delegate comes to
                ++ [.accept owner]
termination_by (unvisited hosts chain).length
decreasing_by exact length_unvisited_lt _hfind _hseen

/-- The steps for one further route of a host, a service route.  Nothing follows a step that finds
fault. -/
def serviceRouteSteps [Pattern.Engine] (identity : Identity) : List RouteSpec → List Step
  | [] => [.settle ⟨identity, .serviceRoute⟩ (.valid .serviceRoute)]
  | route :: rest =>
    match checkConditions route.conditions with
    | .error e => [.settle ⟨identity, .serviceRoute⟩ (.invalid (.badConditions e))]
    | .ok _ =>
      if route.delegate.isSome then
        [.settle ⟨identity, .serviceRoute⟩ (.invalid .serviceRouteDelegates)]
      else
        .serve ⟨identity, .serviceRoute⟩ route route.conditions
          :: serviceRouteSteps identity rest

/-- `mergeSteps serviceRoutes fqdn` are the steps for the service routes of the domain name
`fqdn`. -/
def mergeSteps [Pattern.Engine] (serviceRoutes : OrderedMap Identity ServiceRoute) (fqdn : String) :
    List Step :=
  (serviceRoutes.toList.filter fun p => p.2.domain = fqdn).flatMap fun p =>
    .merge p.1 :: serviceRouteSteps p.1 p.2.routes

end GatewayCompiler.Build
