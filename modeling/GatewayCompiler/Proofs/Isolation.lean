import GatewayCompiler.Proofs.Determined
import GatewayCompiler.Proofs.Routes

/-!
# A new root leaves other hosts alone

A root is put into a cache.  Its walk runs between those of the other roots, and it shares the
look-ups, the statuses and the hosts with them.  As long as no other root has its domain name and no
delegation leads to it, the hosts of all other names stay as they were.

## Main definitions

* `GatewayHost.targets` — the hosts that a host delegates to.
* `Building.Parallel` — two builds that have the same hosts of a name.

## Main statements

* `routeSteps_insert`, `tcpSteps_insert` — a host that nobody delegates to changes no other walk.
* `addRoot_withHosts` — the other roots are served as before.
* `build_isolated` — the hosts of other names are the same in the two graphs.
-/

namespace GatewayCompiler

/-- `host.targets identity` are the hosts that a host delegates to, be it by its routes or by its
forwarding. -/
def GatewayHost.targets (host : GatewayHost) (identity : Identity) : List Identity :=
  (host.routes.filterMap RouteSpec.delegate ++ (host.tcpProxy.bind TcpProxySpec.delegate).toList).map
    fun d => d.target identity.space

/-- `cache.withHosts hosts` is the cache with other hosts, and all other resources as they are. -/
def Cache.withHosts (cache : Cache) (hosts : OrderedMap Identity GatewayHost) : Cache :=
  { cache with gatewayHosts := hosts }

namespace Build

section

variable {engine : Pattern.Engine} {cache : Cache} {hosts : OrderedMap Identity GatewayHost} {root : Identity}
  {host : GatewayHost}

/-! ### Walks -/

/-- `Untargeted hosts root` says that no host delegates to `root`. -/
def Untargeted (hosts : OrderedMap Identity GatewayHost) (root : Identity) : Prop :=
  ∀ i other, hosts.find? i = some other → root ∉ other.targets i

theorem Untargeted.route (h : Untargeted hosts root) {i : Identity} {other : GatewayHost}
    (found : hosts.find? i = some other) {r : RouteSpec} (hr : r ∈ other.routes) {d : Delegate}
    (hd : r.delegate = some d) : d.target i.space ≠ root := by
  intro heq
  refine h i other found (List.mem_map.mpr ⟨d, List.mem_append_left _ ?_, heq⟩)
  exact List.mem_filterMap.mpr ⟨r, hr, hd⟩

theorem Untargeted.forwarding (h : Untargeted hosts root) {i : Identity} {other : GatewayHost}
    (found : hosts.find? i = some other) {proxy : TcpProxySpec}
    (hproxy : other.tcpProxy = some proxy) {d : Delegate} (hd : proxy.delegate = some d) :
    d.target i.space ≠ root := by
  intro heq
  refine h i other found (List.mem_map.mpr ⟨d, List.mem_append_right _ ?_, heq⟩)
  simp [hproxy, hd]

/-- A host that nobody delegates to changes no walk over the routes of the others: no look-up of a
delegate finds it. -/
theorem routeSteps_insert (untargeted : Untargeted hosts root) (finish : List Step)
    (chain : List Identity) (owner : Identity) (inherited : List Condition)
    (routes : List RouteSpec)
    (hroutes : ∀ r ∈ routes, ∀ d, r.delegate = some d → d.target owner.space ≠ root) :
    routeSteps (hosts.insert root host) finish chain owner inherited routes
      = routeSteps hosts finish chain owner inherited routes := by
  -- a delegate of the routes is found in both maps or in neither
  have hfind : ∀ i, i ≠ root → (hosts.insert root host).find? i = hosts.find? i := fun i hi =>
    hosts.find?_insert_of_ne host hi
  induction finish, chain, owner, inherited, routes using routeSteps.induct hosts with
  | case1 finish chain owner inherited => rw [routeSteps, routeSteps]
  | case2 finish chain owner inherited route rest problem hcheck =>
    rw [routeSteps_cons, routeSteps_cons]
    simp only [hcheck]
  | case3 finish chain owner inherited route rest u hcheck hown ih =>
    rw [routeSteps_cons, routeSteps_cons]
    simp only [hcheck, hown]
    rw [ih fun r hr => hroutes r (List.mem_cons_of_mem _ hr)]
  | case4 finish chain owner inherited route rest u hcheck d hd hregex =>
    rw [routeSteps_cons, routeSteps_cons]
    simp only [hcheck, hd, hregex, if_true]
  | case5 finish chain owner inherited route rest u hcheck d hd hregex hmissing ih =>
    have hmissing' := hfind _ (hroutes route List.mem_cons_self d hd)
    rw [hmissing] at hmissing'
    rw [routeSteps_cons, routeSteps_cons]
    simp only [hcheck, hd, hregex, Bool.false_eq_true, if_false, hmissing, hmissing']
    exact ih fun r hr => hroutes r (List.mem_cons_of_mem _ hr)
  | case6 finish chain owner inherited route rest u hcheck d hd hregex child hfound below ih =>
    have hfound' := hfind _ (hroutes route List.mem_cons_self d hd)
    rw [hfound] at hfound'
    rw [routeSteps_cons, routeSteps_cons]
    simp only [hcheck, hd, hregex, Bool.false_eq_true, if_false, hfound, hfound']
    by_cases hseen : d.target owner.space ∈ chain
    · simp only [hseen, if_true]
    · simp only [hseen, if_false]
      rw [below hseen fun r hr e he => untargeted.route hfound hr he,
        ih fun r hr => hroutes r (List.mem_cons_of_mem _ hr)]

/-- A host that nobody delegates to changes no walk over the forwarding of the others. -/
theorem tcpSteps_insert (untargeted : Untargeted hosts root) (chain : List Identity)
    (owner : Identity) (proxy : Option TcpProxySpec)
    (hproxy : ∀ p d, proxy = some p → p.delegate = some d → d.target owner.space ≠ root) :
    tcpSteps (hosts.insert root host) chain owner proxy = tcpSteps hosts chain owner proxy := by
  -- the walk looks up targets only, and the new root is none of them
  have hfind : ∀ i, i ≠ root → (hosts.insert root host).find? i = hosts.find? i := fun i hi =>
    hosts.find?_insert_of_ne host hi
  induction chain, owner, proxy using tcpSteps.induct hosts with
  | case1 chain owner => rw [tcpSteps_eq, tcpSteps_eq]
  | case2 chain owner proxy hservices hdelegate =>
    rw [tcpSteps_eq, tcpSteps_eq]
    simp only [hservices, hdelegate, ne_eq, not_false_eq_true, if_true]
  | case3 chain owner proxy hservices hdelegate =>
    rw [tcpSteps_eq, tcpSteps_eq]
    simp only [hservices, hdelegate, ne_eq, not_false_eq_true, if_true]
  | case4 chain owner proxy hservices hdelegate =>
    rw [tcpSteps_eq, tcpSteps_eq]
    simp only [hservices, hdelegate, if_false]
  | case5 chain owner proxy hservices d hdelegate hmissing =>
    have hmissing' := hfind _ (hproxy proxy d rfl hdelegate)
    rw [hmissing] at hmissing'
    rw [tcpSteps_eq, tcpSteps_eq]
    simp only [hservices, hdelegate, if_false, hmissing, hmissing']
  | case6 chain owner proxy hservices d hdelegate child hfound ih =>
    have hfound' := hfind _ (hproxy proxy d rfl hdelegate)
    rw [hfound] at hfound'
    rw [tcpSteps_eq, tcpSteps_eq]
    simp only [hservices, hdelegate, if_false, hfound, hfound']
    by_cases hseen : d.target owner.space ∈ chain
    · simp only [hseen, if_true]
    · simp only [hseen, if_false]
      -- the delegate's own targets avoid the root as well, as it is in the cache
      rw [ih hseen fun p e hp he => untargeted.forwarding hfound hp he]

/-- A root of another domain name does not count among the `sharers` of a name. -/
theorem sharers_insert (new : hosts.find? root = none) {fqdn : String}
    (other : ∀ v, host.virtualHost = some v → v.domain ≠ fqdn) :
    sharers (hosts.insert root host) fqdn = sharers hosts fqdn := by
  obtain ⟨before, after, hsplit, hinsert⟩ :=
    OrderedMap.toList_insert_of_find?_eq_none new host
  unfold sharers
  rw [hsplit, hinsert, List.filterMap_append, List.filterMap_append, List.filterMap_cons_none]
  cases hv : host.virtualHost with
  | none => simp
  | some v => simp [other v hv]

/-! ### What does not depend on the hosts of a cache -/

section WithHosts

variable (cache : Cache) (hosts : OrderedMap Identity GatewayHost)

theorem sound_withHosts {known : Lookups} :
    known.Sound (cache.withHosts hosts) ↔ known.Sound cache :=
  ⟨fun h => ⟨h.ports, h.secrets⟩, fun h => ⟨h.ports, h.secrets⟩⟩

theorem buildClusters_withHosts : buildClusters (cache.withHosts hosts) = buildClusters cache := by
  funext space services
  induction services with
  | nil => rfl
  | cons s rest ih =>
    rw [buildClusters, buildClusters, ih]
    rfl

theorem buildRoute_withHosts : buildRoute (cache.withHosts hosts) = buildRoute cache := by
  funext space spec conditions
  unfold buildRoute
  rw [buildClusters_withHosts]
  rfl

theorem forwardClusters_withHosts :
    Building.forwardClusters (cache.withHosts hosts) = Building.forwardClusters cache := by
  funext space services
  induction services with
  | nil => rfl
  | cons s rest ih =>
    rw [Building.forwardClusters, Building.forwardClusters, ih]
    rfl

theorem take_withHosts (place : Place) :
    Building.take (cache.withHosts hosts) place = Building.take cache place := by
  funext b s
  cases s with
  | serve object spec conditions =>
    simp only [Building.take, Building.serve, buildRoute_withHosts]
  | forward owner services =>
    simp only [Building.take, Building.forward, forwardClusters_withHosts]
  | reach target => rfl
  | merge identity => rfl
  | settle object outcome => rfl

theorem takeAll_withHosts (place : Place) (steps : List Step) (b : Building) :
    b.takeAll (cache.withHosts hosts) place steps = b.takeAll cache place steps := by
  rw [Building.takeAll, Building.takeAll, take_withHosts]

theorem secureGrants_withHosts : secureGrants (cache.withHosts hosts) = secureGrants cache := by
  funext space minVersion parts
  induction parts with
  | nil => rfl
  | cons tls rest ih =>
    rw [secureGrants, secureGrants, ih]
    rfl

theorem addIngresses_withHosts : addIngresses (cache.withHosts hosts) = addIngresses cache := by
  have hgrants : Building.addSecureGrants (cache.withHosts hosts)
      = Building.addSecureGrants cache := by
    funext b ingress
    unfold Building.addSecureGrants
    rw [secureGrants_withHosts]
  unfold addIngresses
  rw [hgrants]
  rfl

end WithHosts

/-! ### The other roots -/

/-- A root of the cache is served as before, if the new root neither has its domain name nor is a
delegate of any host. -/
theorem addRoot_withHosts (new : cache.gatewayHosts.find? root = none)
    (untargeted : Untargeted cache.gatewayHosts root) {i : Identity} {other : GatewayHost}
    (found : cache.gatewayHosts.find? i = some other)
    (apart : ∀ v w, host.virtualHost = some v → other.virtualHost = some w → v.domain ≠ w.domain)
    (b : Building) :
    b.addRoot (cache.withHosts (cache.gatewayHosts.insert root host)) (i, other)
      = b.addRoot cache (i, other) := by
  unfold Building.addRoot
  cases hw : other.virtualHost with
  | none => rfl
  | some w =>
    -- neither the sharers of the name nor the steps of the walk see the new root
    have hsharers : sharers (cache.withHosts (cache.gatewayHosts.insert root host)).gatewayHosts
        w.domain = sharers cache.gatewayHosts w.domain :=
      sharers_insert new fun v hv => apart v w hv hw
    have hwalk : ∀ mode, walkSteps (cache.withHosts (cache.gatewayHosts.insert root host)) i other
        w.domain mode = walkSteps cache i other w.domain mode := by
      intro mode
      have htcp : forwardSteps (cache.withHosts (cache.gatewayHosts.insert root host)) i other
          = forwardSteps cache i other :=
        tcpSteps_insert untargeted [i] i _ fun _ _ hp hd => untargeted.forwarding found hp hd
      have hserve : serveSteps (cache.withHosts (cache.gatewayHosts.insert root host)) i other
          w.domain = serveSteps cache i other w.domain :=
        routeSteps_insert untargeted _ [i] i [] _ fun _ hr _ hd => untargeted.route found hr hd
      unfold walkSteps
      rw [htcp, hserve]
    simp only [Building.enterRoot_eq, takeAll_withHosts, hwalk, hsharers]
    rfl

namespace Building

/-- `Parallel cache name b b'` says that two builds have the same hosts of `name`, and they remember
only what the cache says.  What they remember may differ. -/
structure Parallel (cache : Cache) (name : String) (b b' : Building) : Prop where
  /-- The hosts are the same. -/
  same : b.hostsAt name = b'.hostsAt name
  /-- The first one remembers what the cache says. -/
  left : b.lookups.Sound cache
  /-- So does the second one. -/
  right : b'.lookups.Sound cache

/-- Builds stay parallel when they serve the same roots, as the numbers of ports are `distinct` and
the memo then decides nothing. -/
theorem Parallel.foldl [Pattern.Engine] {name : String} {b b' : Building}
    (distinct : cache.PortsDistinct) (h : Parallel cache name b b') (roots : List (Identity × GatewayHost)) :
    Parallel cache name (roots.foldl (addRoot cache) b) (roots.foldl (addRoot cache) b') := by
  induction roots generalizing b b' with
  | nil => exact h
  | cons p rest ih =>
    exact ih ⟨addRoot_hostsAt_congr distinct h.left h.right h.same p,
      (addRoot_follows b p h.left).lookups h.left, (addRoot_follows b' p h.right).lookups h.right⟩

/-- Builds stay parallel when one of them serves a root of another domain name in between. -/
theorem Parallel.addRoot_left [Pattern.Engine] {name : String} {b b' : Building} {cache' : Cache}
    (h : Parallel cache name b b') (hsound : ∀ known : Lookups, known.Sound cache' ↔ known.Sound cache)
    (p : Identity × GatewayHost) (hne : ∀ v, p.2.virtualHost = some v → name ≠ v.domain) :
    Parallel cache name (b.addRoot cache' p) b' where
  same := by rw [addRoot_hostsAt_of_ne b p hne, h.same]
  left := by
    have hb := (hsound _).mpr h.left
    exact (hsound _).mp ((addRoot_follows b p hb).lookups hb)
  right := h.right

end Building

/-- The hosts of a name other than that of the new root are the same in both builds.  The new root
stands somewhere among the others, and the builds are parallel before it and after it. -/
theorem buildAll_withHosts {v : VirtualHostSpec} (distinct : cache.PortsDistinct)
    (new : cache.gatewayHosts.find? root = none) (virtualHost : host.virtualHost = some v)
    (unclaimed : ∀ i other w, cache.gatewayHosts.find? i = some other →
      other.virtualHost = some w → w.domain ≠ v.domain)
    (untargeted : Untargeted cache.gatewayHosts root) {name : String} (hname : name ≠ v.domain) :
    (buildAll (cache.withHosts (cache.gatewayHosts.insert root host))).hostsAt name
      = (buildAll cache).hostsAt name := by
  obtain ⟨before, after, hsplit, hinsert⟩ :=
    OrderedMap.toList_insert_of_find?_eq_none new host
  have hsound := @sound_withHosts cache (cache.gatewayHosts.insert root host)
  -- both builds start with the hosts of the ingresses
  have hstart : Building.Parallel cache name
      (sortHosts (cache.withHosts (cache.gatewayHosts.insert root host))
        (addIngresses (cache.withHosts (cache.gatewayHosts.insert root host))))
      (sortHosts cache (addIngresses cache)) := by
    refine ⟨?_, hsound.mp (sortHosts_sound _), sortHosts_sound cache⟩
    obtain ⟨_, _, hsort⟩ := sortHosts_eq cache (addIngresses cache)
    obtain ⟨_, _, hsort'⟩ := sortHosts_eq (cache.withHosts (cache.gatewayHosts.insert root host))
      (addIngresses cache)
    rw [addIngresses_withHosts, hsort, hsort']
    rfl
  -- the roots of the cache are served alike
  have hroots : ∀ roots ⊆ cache.gatewayHosts.toList, ∀ b : Building,
      roots.foldl (Building.addRoot (cache.withHosts (cache.gatewayHosts.insert root host))) b
        = roots.foldl (Building.addRoot cache) b := by
    intro roots hsub b
    refine List.foldl_ext _ _ b fun b' p hp => ?_
    have hfound := OrderedMap.find?_eq_some_of_mem (hsub hp)
    refine addRoot_withHosts new untargeted hfound (fun v' w hv' hw => ?_) b'
    rw [virtualHost] at hv'
    cases hv'
    exact (unclaimed p.1 p.2 w hfound hw).symm
  have hbefore : before ⊆ cache.gatewayHosts.toList := by
    rw [hsplit]
    exact List.subset_append_left _ _
  have hafter : after ⊆ cache.gatewayHosts.toList := by
    rw [hsplit]
    exact List.subset_append_right _ _
  have hown : ∀ w, host.virtualHost = some w → name ≠ w.domain := by
    intro w hw
    rw [virtualHost] at hw
    cases hw
    exact hname
  have hend := ((hstart.foldl distinct before).addRoot_left (fun known => hsound) (root, host)
    hown).foldl distinct after
  have hlist : (cache.withHosts (cache.gatewayHosts.insert root host)).gatewayHosts.toList
      = before ++ (root, host) :: after := hinsert
  rw [buildAll, buildAll, hsplit, hlist, List.foldl_append, List.foldl_cons, List.foldl_append, hroots before hbefore,
    hroots after hafter]
  exact hend.same

/-- The hosts of a graph are those of its build that have something to serve. -/
theorem host?_build (cache : Cache) (name : String) :
    (Graph.build cache).host? Listener.plainRole name
      = (((buildAll cache).hostsAt name).1.map Host.plain).filter Host.isRetained ∧
    (Graph.build cache).host? Listener.secureRole name
      = (((buildAll cache).hostsAt name).2.map Host.secure).filter Host.isRetained := by
  rw [← Building.recordOrphans_hostsAt cache name]
  unfold Building.hostsAt
  simp only
  rw [← OrderedMap.find?_map, ← OrderedMap.find?_map]
  exact ⟨Graph.host?_plain name, Graph.host?_secure name⟩

/-- **A new root leaves others alone.** Put a new root into a cache in which no service lists a
number twice.  If no root has its domain name and no host delegates to it, then on both listeners
the hosts of all other names are the same as before, or there is none in both graphs. -/
theorem build_isolated {v : VirtualHostSpec} (distinct : cache.PortsDistinct)
    (new : cache.gatewayHosts.find? host.metadata.identity = none)
    (virtualHost : host.virtualHost = some v)
    (unclaimed : ∀ i other w, cache.gatewayHosts.find? i = some other →
      other.virtualHost = some w → w.domain ≠ v.domain)
    (untargeted : ∀ i other, cache.gatewayHosts.find? i = some other →
      host.metadata.identity ∉ other.targets i) {name : String} (hname : name ≠ v.domain) :
    (Graph.build (cache.put (.gatewayHost host))).host? Listener.plainRole name
      = (Graph.build cache).host? Listener.plainRole name ∧
    (Graph.build (cache.put (.gatewayHost host))).host? Listener.secureRole name
      = (Graph.build cache).host? Listener.secureRole name := by
  have hsame : (buildAll (cache.put (.gatewayHost host))).hostsAt name
      = (buildAll cache).hostsAt name :=
    buildAll_withHosts distinct new virtualHost unclaimed untargeted hname
  obtain ⟨hplain, hsecure⟩ := host?_build (cache.put (.gatewayHost host)) name
  obtain ⟨hplain', hsecure'⟩ := host?_build cache name
  rw [hplain, hsecure, hplain', hsecure', hsame]
  exact ⟨rfl, rfl⟩

end

/-! ### Two roots that delegate to the same host -/

/-- A root of another domain name, which leaves its paths to the same host as `siteHost`. -/
def booksHost : GatewayHost := { siteHost with
  metadata := { name := some "books", space := some "default" }
  virtualHost := some ⟨"books.test", none, []⟩ }

/-- The second root leaves the host of the first one alone. -/
theorem site_isolated :
    siteCache.PortsDistinct ∧
    (∀ i other, siteCache.gatewayHosts.find? i = some other →
      booksHost.metadata.identity ∉ other.targets i) ∧
    (Graph.build (siteCache.put (.gatewayHost booksHost))).host? Listener.plainRole "site.test"
      = (Graph.build siteCache).host? Listener.plainRole "site.test" := by
  -- the cache has one service, with a single port
  have distinct : siteCache.PortsDistinct := by
    refine Cache.portsDistinct_of_forall ?_
    rintro p (_ | ⟨_, ⟨⟩⟩)
    exact List.nodup_singleton _
  have new : siteCache.gatewayHosts.find? booksHost.metadata.identity = none := by decide
  have hosts : ∀ p ∈ siteCache.gatewayHosts.toList, booksHost.metadata.identity ∉ p.2.targets p.1 ∧
      ∀ w, p.2.virtualHost = some w →
        w.domain ≠ (⟨"books.test", none, []⟩ : VirtualHostSpec).domain := by
    rintro p (_ | ⟨_, _ | ⟨_, ⟨⟩⟩⟩)
    · exact ⟨by decide, by rintro _ ⟨⟩; decide⟩
    · exact ⟨by decide, by rintro _ ⟨⟩⟩
  have untargeted : ∀ i other, siteCache.gatewayHosts.find? i = some other →
      booksHost.metadata.identity ∉ other.targets i := fun _ _ hfind =>
    (hosts _ (OrderedMap.mem_of_find?_eq_some hfind)).1
  have hname : "site.test" ≠ (⟨"books.test", none, []⟩ : VirtualHostSpec).domain := by decide
  exact ⟨distinct, untargeted, (build_isolated distinct new rfl
    (fun _ _ w hfind hw => (hosts _ (OrderedMap.mem_of_find?_eq_some hfind)).2 w hw)
    untargeted hname).1⟩

end Build

end GatewayCompiler
