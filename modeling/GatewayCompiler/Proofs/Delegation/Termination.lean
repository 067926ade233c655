import GatewayCompiler.Proofs.Roots
import GatewayCompiler.Proofs.Cycles

/-!
# Walks come to an end

`routeSteps` and `tcpSteps` are total because a host is only entered when it is not on the way yet.
Here the same walks are taken without that argument: the call for a delegate is left open, and a
guard stands before every call.  A guarded walk gives up when the way is longer than the cache has
hosts, when a host is on it twice, or when one of its members is unknown.  It never does.

## Main definitions

* `Simple` — a way over hosts of a cache, none of them twice.
* `routeStepsVia`, `tcpStepsVia` — one call of a walk, where the calls below it are left open.
* `guardedRouteSteps`, `guardedTcpSteps` — walks of a limited depth, with a guard before every call.

## Main statements

* `guardedRouteSteps_eq`, `guardedTcpSteps_eq` — guarded walks of sufficient depth are walks.
* `guarded_walks_end` — the walks of a root, guarded and no deeper than the cache has hosts.
-/

namespace GatewayCompiler.Build

variable {cache : Cache} {hosts : OrderedMap Identity GatewayHost}

/-! ### Ways -/

/-- `Simple hosts chain` says that `chain` is a way over hosts of a cache: no host is on it twice,
so it has no more hosts than there are. -/
structure Simple (hosts : OrderedMap Identity GatewayHost) (chain : List Identity) : Prop where
  /-- No host comes twice. -/
  nodup : chain.Nodup
  /-- All hosts are there. -/
  cached : ∀ i ∈ chain, hosts.contains i
  /-- There are no more of them than hosts in the cache. -/
  length_le : chain.length ≤ hosts.size

instance (hosts : OrderedMap Identity GatewayHost) (chain : List Identity) :
    Decidable (Simple hosts chain) :=
  decidable_of_iff
    (chain.Nodup ∧ (∀ i ∈ chain, hosts.contains i) ∧ chain.length ≤ hosts.size)
    ⟨fun h => ⟨h.1, h.2.1, h.2.2⟩, fun h => ⟨h.nodup, h.cached, h.length_le⟩⟩

theorem Simple.of_nodup {chain : List Identity} (nodup : chain.Nodup)
    (cached : ∀ i ∈ chain, hosts.contains i) : Simple hosts chain where
  nodup := nodup
  cached := cached
  length_le := by
    have hsub : chain ⊆ hosts.keys := fun i hi =>
      OrderedMap.contains_iff_mem_keys.mp (cached i hi)
    have hlength := (List.subperm_of_subset nodup hsub).length_le
    rwa [OrderedMap.keys, List.length_map] at hlength

/-- The chain of a host that is entered is a `Simple` way. -/
theorem IsChain.simple {root owner : Identity} {chain : List Identity}
    (h : IsChain hosts root chain owner) : Simple hosts chain :=
  .of_nodup h.nodup h.cached

theorem Simple.append {chain : List Identity} {target : Identity} {child : GatewayHost}
    (h : Simple hosts chain) (found : hosts.find? target = some child) (new : target ∉ chain) :
    Simple hosts (chain ++ [target]) := by
  refine .of_nodup (List.nodup_append.mpr ⟨h.nodup, List.nodup_singleton _, ?_⟩) fun i hi => ?_
  · rintro i hi _ hj rfl
    rw [List.mem_singleton.mp hj] at hi
    exact new hi
  · rcases List.mem_append.mp hi with hi | hi
    · exact h.cached i hi
    · rw [List.mem_singleton.mp hi]
      simp [OrderedMap.contains, found]

theorem Simple.root {root : Identity} {host : GatewayHost} (found : hosts.find? root = some host) :
    Simple hosts [root] :=
  (IsChain.root found).simple

/-- Less than all hosts are left when a walk starts at one of them, so that `hosts.size` calls are
enough. -/
theorem length_unvisited_root {root : Identity} {host : GatewayHost}
    (found : hosts.find? root = some host) : (unvisited hosts [root]).length < hosts.size := by
  have hless := length_unvisited_lt found List.not_mem_nil
  have hall : (unvisited hosts []).length ≤ hosts.size := by
    have hle := List.length_filter_le (fun i => i ∉ ([] : List Identity)) hosts.keys
    rwa [OrderedMap.keys, List.length_map] at hle
  exact Nat.lt_of_lt_of_le hless hall

/-! ### Walks over routes -/

/-- One call of the walk over routes, the body of `routeSteps`.  The call for a delegate is left
open in `enter`, and it may fail. -/
def routeStepsVia [Pattern.Engine] (hosts : OrderedMap Identity GatewayHost)
    (enter : List Identity → Identity → List Condition → List RouteSpec → Option (List Step))
    (finish : List Step) (chain : List Identity) (owner : Identity) (inherited : List Condition) :
    List RouteSpec → Option (List Step)
  | [] => some (finish ++ [.accept owner])
  | route :: rest =>
    match checkRoute route with
    | .error problem => some [.reject owner problem]
    | .ok _ =>
      match route.delegate with
      | none =>
        (routeStepsVia hosts enter finish chain owner inherited rest).map
          (.serve (hostRef owner) route (inherited ++ route.conditions) :: ·)
      | some delegate =>
        if hasRegex route.conditions then some [.reject owner .regexDelegated]
        else
          let target := delegate.target owner.space
          match hosts.find? target with
          | none => routeStepsVia hosts enter finish chain owner inherited rest
          | some child =>
            if target ∈ chain then
              some [.reach target, .reject owner (.routeCycle (chain ++ [target]))]
            else if child.virtualHost.isSome then
              some [.reach target, .reject owner (.delegateIsRoot target)]
            else do
              let below ← enter (chain ++ [target]) target (inherited ++ route.conditions)
                child.routes
              let next ← routeStepsVia hosts enter finish chain owner inherited rest
              return .reach target :: (below ++ next)

/-- The walk over routes with at most `depth` calls at a time.  Before every call its way is
checked, and it fails where the way is not `Simple`. -/
def guardedRouteSteps [Pattern.Engine] (hosts : OrderedMap Identity GatewayHost) :
    Nat → List Step → List Identity → Identity → List Condition → List RouteSpec →
      Option (List Step)
  | 0, _, _, _, _, _ => none
  | depth + 1, finish, chain, owner, inherited, routes =>
    if Simple hosts chain then
      routeStepsVia hosts (guardedRouteSteps hosts depth []) finish chain owner inherited routes
    else none

/-- One call does what `routeSteps` does, if the calls below it, by `enter`, do. -/
theorem routeStepsVia_eq [Pattern.Engine]
    {enter : List Identity → Identity → List Condition → List RouteSpec → Option (List Step)}
    {chain : List Identity}
    (below : ∀ (target : Identity) (child : GatewayHost) (inherited : List Condition),
      hosts.find? target = some child → target ∉ chain →
        enter (chain ++ [target]) target inherited child.routes
          = some (routeSteps hosts [] (chain ++ [target]) target inherited child.routes))
    (finish : List Step) (owner : Identity) (inherited : List Condition)
    (routes : List RouteSpec) :
    routeStepsVia hosts enter finish chain owner inherited routes
      = some (routeSteps hosts finish chain owner inherited routes) := by
  induction routes with
  | nil => rw [routeStepsVia, routeSteps]
  | cons route rest ih =>
    rw [routeStepsVia, routeSteps_cons]
    cases hcheck : checkRoute route with
    | error problem => rfl
    | ok _ =>
      cases hdelegate : route.delegate with
      | none => simp [ih]
      | some delegate =>
        by_cases hregex : hasRegex route.conditions
        · simp [hregex]
        · cases hfound : hosts.find? (delegate.target owner.space) with
          | none => simp [hregex, hfound, ih]
          | some child =>
            by_cases hseen : delegate.target owner.space ∈ chain
            · simp [hregex, hfound, hseen]
            · by_cases hroot : child.virtualHost.isSome
              · simp [hregex, hfound, hseen, hroot]
              · -- the only case with a call below this one
                have hbelow := below _ child (inherited ++ route.conditions) hfound hseen
                simp [hregex, hfound, hseen, hroot, hbelow, ih]

/-- A guarded walk comes to the steps of `routeSteps`, if its `depth` exceeds the hosts that are
left. -/
theorem guardedRouteSteps_eq [Pattern.Engine] {depth : Nat} {chain : List Identity}
    (simple : Simple hosts chain)
    (deep : (unvisited hosts chain).length < depth) (finish : List Step) (owner : Identity)
    (inherited : List Condition) (routes : List RouteSpec) :
    guardedRouteSteps hosts depth finish chain owner inherited routes
      = some (routeSteps hosts finish chain owner inherited routes) := by
  induction depth generalizing finish chain owner inherited routes with
  | zero => exact absurd deep (Nat.not_lt_zero _)
  | succ depth ih =>
    rw [guardedRouteSteps, if_pos simple]
    refine routeStepsVia_eq (fun target child inherited found new => ?_) _ _ _ _
    -- the delegate is no longer among the hosts that are left
    have hless := length_unvisited_lt found new
    exact ih (simple.append found new) (by omega) _ _ _ _

/-! ### Walks over forwardings -/

/-- One call of the walk over forwardings, the body of `tcpSteps`.  The call for a delegate is left
open in `enter`, and it may fail. -/
def tcpStepsVia (hosts : OrderedMap Identity GatewayHost)
    (enter : List Identity → Identity → Option TcpProxySpec → Option (List Step))
    (chain : List Identity) (owner : Identity) (proxy : Option TcpProxySpec) :
    Option (List Step) :=
  match proxy with
  | none => some [.reject owner .noTcpProxy]
  | some proxy =>
    if proxy.services ≠ [] then
      if proxy.delegate.isSome then some [.reject owner .tcpServicesAndDelegate]
      else some [.forward owner proxy.services]
    else
      match proxy.delegate with
      | none => some [.reject owner .emptyTcpProxy]
      | some delegate =>
        let target := delegate.target owner.space
        match hosts.find? target with
        | none => some [.reject owner (.tcpDelegateMissing target)]
        | some child =>
          if target ∈ chain then
            some [.reach target, .reject owner (.tcpCycle (chain ++ [target]))]
          else do
            let below ← enter (chain ++ [target]) target child.tcpProxy
            return .reach target :: (below ++ [.accept owner])

/-- The walk over forwardings with at most `depth` calls at a time.  Before every call its way is
checked, as in `guardedRouteSteps`. -/
def guardedTcpSteps (hosts : OrderedMap Identity GatewayHost) :
    Nat → List Identity → Identity → Option TcpProxySpec → Option (List Step)
  | 0, _, _, _ => none
  | depth + 1, chain, owner, proxy =>
    if Simple hosts chain then tcpStepsVia hosts (guardedTcpSteps hosts depth) chain owner proxy
    else none

/-- One call does what `tcpSteps` does, if the call below it, by `enter`, does. -/
theorem tcpStepsVia_eq
    {enter : List Identity → Identity → Option TcpProxySpec → Option (List Step)}
    {chain : List Identity}
    (below : ∀ (target : Identity) (child : GatewayHost),
      hosts.find? target = some child → target ∉ chain →
        enter (chain ++ [target]) target child.tcpProxy
          = some (tcpSteps hosts (chain ++ [target]) target child.tcpProxy))
    (owner : Identity) (proxy : Option TcpProxySpec) :
    tcpStepsVia hosts enter chain owner proxy = some (tcpSteps hosts chain owner proxy) := by
  unfold tcpStepsVia
  rw [tcpSteps_eq]
  cases proxy with
  | none => rfl
  | some proxy =>
    -- services win over a delegate, and only without services is the delegate followed
    by_cases hservices : proxy.services = []
    · cases hdelegate : proxy.delegate with
      | none => simp [hservices, hdelegate]
      | some delegate =>
        cases hfound : hosts.find? (delegate.target owner.space) with
        | none => simp [hservices, hdelegate, hfound]
        | some child =>
          by_cases hseen : delegate.target owner.space ∈ chain
          · simp [hservices, hdelegate, hfound, hseen]
          · simp [hservices, hdelegate, hfound, hseen, below _ child hfound hseen]
    · by_cases hdelegate : proxy.delegate.isSome
      · simp [hservices, hdelegate]
      · simp [hservices, hdelegate]

/-- A guarded walk comes to the steps of `tcpSteps`, if its `depth` exceeds the hosts that are
left. -/
theorem guardedTcpSteps_eq {depth : Nat} {chain : List Identity} (simple : Simple hosts chain)
    (deep : (unvisited hosts chain).length < depth) (owner : Identity)
    (proxy : Option TcpProxySpec) :
    guardedTcpSteps hosts depth chain owner proxy = some (tcpSteps hosts chain owner proxy) := by
  induction depth generalizing chain owner proxy with
  | zero => exact absurd deep (Nat.not_lt_zero _)
  | succ depth ih =>
    rw [guardedTcpSteps, if_pos simple]
    refine tcpStepsVia_eq (fun target child found new => ?_) _ _
    have hless := length_unvisited_lt found new
    exact ih (simple.append found new) (by omega) _ _

/-! ### The walks of a root -/

/-- **The walks of a root end**, however its delegations run, and with no more calls at a time than
the cache has hosts.  At every call the way to the host has none of the hosts of the cache twice: no
guard fails, and the same is true of every host that is entered. -/
theorem guarded_walks_end [Pattern.Engine] {root : Identity} {host : GatewayHost}
    (found : cache.gatewayHosts.find? root = some host) (fqdn : String) :
    guardedRouteSteps cache.gatewayHosts cache.gatewayHosts.size
        (mergeSteps cache.serviceRoutes fqdn) [root] root [] host.routes
      = some (serveSteps cache root host fqdn) ∧
    guardedTcpSteps cache.gatewayHosts cache.gatewayHosts.size [root] root host.tcpProxy
      = some (forwardSteps cache root host) ∧
    (∀ g, Enters cache.gatewayHosts (.ofRoot root host) g → Simple cache.gatewayHosts g.chain) ∧
    ∀ g, TcpEnters cache.gatewayHosts (.ofRoot root host) g →
      Simple cache.gatewayHosts g.chain := by
  have hroot := Simple.root found
  have hdeep := length_unvisited_root found
  exact ⟨guardedRouteSteps_eq hroot hdeep _ _ _ _, guardedTcpSteps_eq hroot hdeep _ _,
    fun _ hg => (hg.isChain found).simple, fun _ hg => (hg.isChain found).simple⟩

/-- The walk over two hosts that delegate to each other ends, with no more calls at a time than the
three hosts of the cache. -/
theorem circle_walk_ends :
    circleCache.gatewayHosts.find? ⟨"default", "site"⟩ = some siteHost ∧
    guardedRouteSteps circleCache.gatewayHosts 3 [] [⟨"default", "site"⟩] ⟨"default", "site"⟩ []
        siteHost.routes
      = some (serveSteps circleCache ⟨"default", "site"⟩ siteHost "site.test") := by
  have found : circleCache.gatewayHosts.find? ⟨"default", "site"⟩ = some siteHost := rfl
  exact ⟨found, (guarded_walks_end found "site.test").1⟩

end GatewayCompiler.Build
