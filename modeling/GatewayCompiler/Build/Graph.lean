import GatewayCompiler.Build.Ingress
import GatewayCompiler.Build.Root

/-!
# Building the graph

A build reads the cache in three passes: the certificates of ingresses, the rules of ingresses, and
the roots with everything that they delegate to.  Problems never end a build.  They are recorded as
the status of the object at fault, and what cannot be served is left out.

## Main definitions

* `addIngresses`, `sortHosts`, `buildAll` — the three passes.
* `Building.recordOrphans` — the statuses of the objects that no root leads to.
* `Graph.build` — the graph of a cache.
-/

namespace GatewayCompiler

namespace Build

/-- `addIngresses cache` are the passes over the ingresses of a cache: all certificates are given
before any route is made. -/
def addIngresses (cache : Cache) : Building :=
  let b := cache.ingresses.toList.foldl (Building.addSecureGrants cache) {}
  cache.ingresses.toList.foldl (Building.addIngress cache) b

/-- `holdOrphans cache b` holds the hosts without a virtual host for orphans. -/
def holdOrphans (cache : Cache) (b : Building) : Building :=
  cache.gatewayHosts.toList.foldl Building.holdOrphan b

/-- `sortHosts cache b` is the pass over the hosts before any root is served: orphans are held, and
the roots that share a domain name are reported. -/
def sortHosts (cache : Cache) (b : Building) : Building :=
  cache.gatewayHosts.toList.foldl (Building.reportSharers cache) (holdOrphans cache b)

/-- `buildAll cache` are the three passes over a cache: over the ingresses, over all hosts, and over
the roots. -/
def buildAll [Pattern.Engine] (cache : Cache) : Building :=
  cache.gatewayHosts.toList.foldl (Building.addRoot cache) (sortHosts cache (addIngresses cache))

namespace Building

/-- Record a host that is still held for an orphan: no walk has reached it. -/
def recordOrphanHost (b : Building) (identity : Identity) : Building :=
  b.settle (hostRef identity) .orphanedHost ""

/-- Record a service route that is not among the `merged` ones. -/
def recordOrphanRoute (b : Building) (route : Identity × ServiceRoute) : Building :=
  b.settle ⟨route.1, .serviceRoute⟩ (.orphanedRoute route.2.fqdn) route.2.fqdn

/-- Record the objects that no root leads to, which ends a build. -/
def recordOrphans (cache : Cache) (b : Building) : Building :=
  let hosts := b.orphans.keys.filter cache.gatewayHosts.contains
  let routes := cache.serviceRoutes.toList.filter fun p => !b.merged.contains p.1
  routes.foldl recordOrphanRoute (hosts.foldl recordOrphanHost b)

/-- `b.listeners` are the listeners of the build `b`, with their roles. -/
def listeners (b : Building) : List Listener :=
  [⟨Listener.plainRole, b.plain.map .plain⟩, ⟨Listener.secureRole, b.secure.map .secure⟩]

end Building

end Build

/-- `Graph.build cache` is the graph of a cache. -/
def Graph.build [Pattern.Engine] (cache : Cache) : Graph :=
  let b := (Build.buildAll cache).recordOrphans cache
  .ofListeners b.listeners b.statuses

end GatewayCompiler
