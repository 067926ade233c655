import GatewayCompiler.Proofs.ForwardedShares

/-!
# Chains of forwardings

The forwarding of an accepted root is handed over from one host to the next one.  The host of the root
forwards its connections exactly if the hosts on the way are all different and the last one lists
services, each of which has its port.  A chain that ends in any other way leaves the host without a
forwarding, also when only one of many services is missing.

## Main definitions

* `HandsOver`, `Lists` — the forwarding of one host.
* `LeadsTo` — a chain of hosts from a root to services that are all there.
* `Graph.forwarding?` — the clusters that the connections to a host are forwarded to.

## Main statements

* `exists_tcpEnters`, `leadsTo_iff` — the walk that enters the hosts of a chain, and what its end says.
* `build_forwarding` — a root has a forwarding exactly if a chain leads to services.
-/

namespace GatewayCompiler

/-- `g.forwarding? name` are the clusters that the connections to the host of a name are forwarded
to over TLS. -/
def Graph.forwarding? (g : Graph) (name : String) : Option (List Cluster) :=
  (g.host? Listener.secureRole name).bind (·.virtualHost.tcpProxy)

namespace Build

open Relation

variable {cache : Cache} {hosts : OrderedMap Identity GatewayHost} {root : Identity}
  {host : GatewayHost} {v : VirtualHostSpec} {mode : TlsMode}

/-! ### The forwarding of one host -/

/-- `HandsOver hosts i j` says that the host `i` lists no services and delegates its forwarding to
`j`. -/
def HandsOver (hosts : OrderedMap Identity GatewayHost) (i j : Identity) : Prop :=
  ∃ host d, hosts.find? i = some host ∧ host.tcpProxy = some ⟨[], some d⟩ ∧ d.target i.space = j

/-- `Lists hosts i services` says that the host `i` lists `services` and does not delegate its
forwarding. -/
def Lists (hosts : OrderedMap Identity GatewayHost) (i : Identity) (services : List ServiceSpec) :
    Prop :=
  ∃ host, hosts.find? i = some host ∧ host.tcpProxy = some ⟨services, none⟩ ∧ services ≠ []

/-! ### The hosts that a walk enters -/

/-- `Arrives hosts root g` says that a host is entered on a chain from `root`, each host of which
hands over to the next one. -/
structure Arrives (hosts : OrderedMap Identity GatewayHost) (root : Identity) (g : TcpFrame) :
    Prop extends IsChain hosts root g.chain g.owner where
  /-- Every host but the last one hands over. -/
  handsOver : g.chain.IsChain (HandsOver hosts)
  /-- The last one is entered with its own forwarding. -/
  own : ∃ host, hosts.find? g.owner = some host ∧ host.tcpProxy = g.proxy

/-- One more delegation makes the chain longer by the host that is entered. -/
theorem Arrives.tail {f g : TcpFrame} (h : Arrives hosts root f) (hdel : TcpDelegates hosts f g) :
    Arrives hosts root g := by
  cases hdel with
  | @intro proxy d child own services delegate found new =>
    obtain ⟨host, hfind, hproxy⟩ := h.own
    obtain ⟨listed, delegate'⟩ := proxy
    cases services
    cases delegate
    refine ⟨h.toIsChain.append found new, ?_, child, found, rfl⟩
    -- the chain is longer by one link, from the host that hands over to the delegate
    refine List.isChain_append.mpr ⟨h.handsOver, .singleton _, fun i hi j hj => ?_⟩
    have hlast : f.owner = i := Option.some.inj (h.last.symm.trans hi)
    have hnext : d.target f.owner.space = j := Option.some.inj hj
    subst hlast
    exact ⟨host, d, hfind, hproxy.trans own, hnext⟩

theorem TcpEnters.arrives (found : hosts.find? root = some host) {g : TcpFrame}
    (h : TcpEnters hosts (.ofRoot root host) g) : Arrives hosts root g := by
  induction h with
  | refl => exact ⟨.root found, .singleton root, host, found, rfl⟩
  | tail _ hdel ih => exact ih.tail hdel

/-- A host that hands over enters the next one, if it is there and not on the way already. -/
theorem Arrives.exists_delegates {f : TcpFrame} (h : Arrives hosts root f) {target : Identity}
    (hands : HandsOver hosts f.owner target) (cached : hosts.contains target)
    (new : target ∉ f.chain) :
    ∃ g, TcpDelegates hosts f g ∧ g.chain = f.chain ++ [target] := by
  obtain ⟨host, hfind, hproxy⟩ := h.own
  obtain ⟨host', d, hfind', hproxy', rfl⟩ := hands
  rw [hfind] at hfind'
  cases hfind'
  obtain ⟨child, hchild⟩ := OrderedMap.contains_eq_true_iff.mp cached
  exact ⟨_, .intro (hproxy.symm.trans hproxy') rfl rfl hchild new, rfl⟩

/-- Along a chain every host is entered.  The induction is on the chain from its end, since a host
is entered with all that stands before it. -/
theorem exists_tcpEnters (found : hosts.find? root = some host) {chain : List Identity}
    {owner : Identity} (h : IsChain hosts root chain owner) (handsOver : chain.IsChain (HandsOver hosts)) :
    ∃ g, TcpEnters hosts (.ofRoot root host) g ∧ g.chain = chain := by
  induction chain using List.reverseRecOn generalizing owner with
  | nil => cases h.head
  | append_singleton before target ih =>
    by_cases hbefore : before = []
    · subst hbefore
      cases h.head
      exact ⟨_, .refl, rfl⟩
    obtain ⟨hhands, -, hlink⟩ := List.isChain_append.mp handsOver
    obtain ⟨hnodup, -, hnew⟩ := List.nodup_append.mp h.nodup
    obtain ⟨last, hlast⟩ := Option.ne_none_iff_exists'.mp (mt List.getLast?_eq_none_iff.mp hbefore)
    have hhead : before.head? = some root := by
      rw [← h.head, List.head?_append_of_ne_nil _ hbefore]
    have hchain : IsChain hosts root before last :=
      ⟨hhead, hlast, hnodup, fun i hi => h.cached i (List.mem_append_left _ hi)⟩
    obtain ⟨f, hf, rfl⟩ := ih hchain hhands
    -- the walk stands at the host before the last one
    have harrives := hf.arrives found
    obtain rfl : f.owner = last := Option.some.inj (harrives.last.symm.trans hlast)
    obtain ⟨g, hdel, hg⟩ := harrives.exists_delegates (hlink _ hlast target rfl)
      (h.cached target (List.mem_append_right _ (List.mem_singleton_self _)))
      (fun hmem => hnew target hmem target (List.mem_singleton_self _) rfl)
    exact ⟨g, hf.tail hdel, hg⟩

/-! ### Chains that lead to services -/

/-- `LeadsTo cache root chain owner services` says that a chain of different hosts, which are all
there, leads from a root to a host: every host but the last one hands over to the next one, and the
last one lists `services`, all of which have their ports. -/
structure LeadsTo (cache : Cache) (root : Identity) (chain : List Identity) (owner : Identity)
    (services : List ServiceSpec) : Prop extends IsChain cache.gatewayHosts root chain owner where
  /-- Every host but the last one hands over. -/
  handsOver : chain.IsChain (HandsOver cache.gatewayHosts)
  /-- The last one lists services. -/
  lists : Lists cache.gatewayHosts owner services
  /-- They have their ports. -/
  listed : AllListed cache owner.space services

/-- A walk comes to services exactly along a chain that leads to them, so that `LeadsTo` says
without a walk what a walk does. -/
theorem leadsTo_iff (found : cache.gatewayHosts.find? root = some host) {chain : List Identity}
    {owner : Identity} {services : List ServiceSpec} :
    LeadsTo cache root chain owner services ↔
      ∃ g, (TcpFrame.ofRoot root host).ComesTo cache g services ∧ g.chain = chain ∧ g.owner = owner := by
  constructor
  · intro h
    -- the frame at the end of the chain is the host's own, and the cache has one host under its
    -- name
    obtain ⟨g, hg, rfl⟩ := exists_tcpEnters found h.toIsChain h.handsOver
    have harrives := hg.arrives found
    obtain rfl : g.owner = owner := Option.some.inj (harrives.last.symm.trans h.last)
    obtain ⟨last, hfind, hproxy, hservices⟩ := h.lists
    obtain ⟨last', hfind', hown⟩ := harrives.own
    rw [hfind] at hfind'
    cases hfind'
    exact ⟨g, ⟨hg, ⟨hown.symm.trans hproxy, hservices⟩, h.listed⟩, rfl, rfl⟩
  · rintro ⟨g, ⟨hg, serves, hlisted⟩, rfl, rfl⟩
    have harrives := hg.arrives found
    obtain ⟨last, hfind, hown⟩ := harrives.own
    exact ⟨harrives.toIsChain, harrives.handsOver, ⟨last, hfind, hown.trans serves.1, serves.2⟩, hlisted⟩

/-! ### The graph -/

/-- The forwarding of a host in the graph is that of the build: what is recorded behind `buildAll`
does not change it. -/
theorem forwarding?_build [Pattern.Engine] (cache : Cache) (name : String) :
    (Graph.build cache).forwarding? name = (buildAll cache).forwardedAt name := by
  unfold Graph.forwarding? Building.forwardedAt Building.secureAt
  rw [(host?_build cache name).2]
  change (((buildAll cache).secure.find? name).map Host.secure |>.filter Host.isRetained).bind _ = _
  cases (buildAll cache).secure.find? name with
  | none => rfl
  | some h =>
    rw [Option.map_some, Option.filter_some]
    split
    · rfl
    · next hnot =>
      -- a host that forwards its connections has something to serve
      cases htcp : h.host.tcpProxy with
      | none => exact htcp.symm
      | some clusters => simp [Host.isRetained, htcp] at hnot

/-- **Where connections are forwarded.** Take an accepted root with a forwarding, whose connections
are decrypted or passed on.  They are forwarded exactly if a chain leads from the root to services,
and then to one cluster for each of these, in their order.  Otherwise its host forwards nothing. -/
theorem build_forwarding [Pattern.Engine] (accepted : Accepted cache root host v mode)
    (forwards : mode.forwards host = true) :
    (((Graph.build cache).forwarding? v.domain).isSome ↔
      ∃ chain owner services, LeadsTo cache root chain owner services) ∧
    ∀ chain owner services, LeadsTo cache root chain owner services → ∃ clusters,
      (Graph.build cache).forwarding? v.domain = some clusters ∧
      List.Forall₂ (Building.ForwardedTo cache owner.space) services clusters := by
  obtain ⟨opened, hsound, hopened, hwalk⟩ := accepted.exists_opened
  rw [walkSteps, if_pos forwards] at hwalk
  rw [forwarding?_build]
  rcases (walk_forwardSteps root host).attaches ⟨v.domain, mode.enforcesTls⟩ hsound with
    ⟨hnone, hsame⟩ | ⟨g, services, clusters, hg, hclusters, hnew⟩
  · have hfails : ∀ chain owner services, ¬ LeadsTo cache root chain owner services := by
      intro chain owner services h
      obtain ⟨g, hg, -⟩ := (leadsTo_iff accepted.found).mp h
      exact hnone g services hg
    rw [hwalk, hsame, hopened]
    refine ⟨⟨by rintro ⟨⟩, ?_⟩, fun chain owner services h => absurd h (hfails _ _ _)⟩
    rintro ⟨chain, owner, services, h⟩
    exact absurd h (hfails _ _ _)
  · rw [hwalk, hnew]
    refine ⟨⟨fun _ => ⟨_, _, _, (leadsTo_iff accepted.found).mpr ⟨g, hg, rfl, rfl⟩⟩, fun _ => rfl⟩, ?_⟩
    intro chain owner services' h
    obtain ⟨g', hg', -, rfl⟩ := (leadsTo_iff accepted.found).mp h
    -- a walk comes to one host only
    obtain ⟨rfl, rfl⟩ := hg.2.1.unique hg'.2.1 hg.1 hg'.1
    exact ⟨clusters, rfl, hclusters⟩

/-! ### A chain of two hosts -/

/-- Services of a database. -/
def poolServices : List ServiceSpec :=
  [{ weightedService "primary" 5432 1 with strategy := some "Random" },
   weightedService "replica" 5433 1]

/-- A host that forwards connections to them. -/
def poolHost : GatewayHost where
  metadata := { name := some "pool", space := some "data" }
  virtualHost := none
  routes := []
  tcpProxy := some ⟨poolServices, none⟩

/-- A root that hands its connections over to `poolHost`. -/
def poolRoot : GatewayHost where
  metadata := { name := some "db", space := some "default" }
  virtualHost := some ⟨"db.test", some passedOn, []⟩
  routes := []
  tcpProxy := some ⟨[], some ⟨"pool", some "data"⟩⟩

/-- A cache with both and with the services. -/
def poolCache : Cache where
  gatewayHosts := .ofList [(⟨"default", "db"⟩, poolRoot), (⟨"data", "pool"⟩, poolHost)]
  services := .ofList [
    (⟨"data", "primary"⟩,
      ⟨{ name := some "primary", space := some "data" }, none, none, [⟨some "sql", 5432⟩]⟩),
    (⟨"data", "replica"⟩,
      ⟨{ name := some "replica", space := some "data" }, none, none, [⟨some "sql", 5433⟩]⟩)]

theorem pool_leadsTo : LeadsTo poolCache ⟨"default", "db"⟩ [⟨"default", "db"⟩, ⟨"data", "pool"⟩]
    ⟨"data", "pool"⟩ poolServices where
  head := rfl
  last := rfl
  nodup := by decide
  cached := by decide
  handsOver := .cons_cons ⟨poolRoot, ⟨"pool", some "data"⟩, rfl, rfl, rfl⟩ (.singleton _)
  lists := ⟨poolHost, rfl, rfl, List.cons_ne_nil _ _⟩
  listed := by
    intro s hs
    rcases List.mem_pair.mp hs with rfl | rfl <;> rfl

/-- The connections to the root are forwarded to the services that the host lists. -/
theorem pool_forwarded :
    Accepted poolCache ⟨"default", "db"⟩ poolRoot ⟨"db.test", some passedOn, []⟩ .passthrough ∧
    ∃ clusters, (Graph.build poolCache).forwarding? "db.test" = some clusters ∧
      List.Forall₂ (Building.ForwardedTo poolCache "data") poolServices clusters := by
  have accepted : Accepted poolCache ⟨"default", "db"⟩ poolRoot ⟨"db.test", some passedOn, []⟩
      .passthrough := ⟨rfl, rfl, rfl, rfl⟩
  have hdomain : (⟨"db.test", some passedOn, []⟩ : VirtualHostSpec).domain = "db.test" := rfl
  have hforwarding := (build_forwarding accepted rfl).2 _ _ _ pool_leadsTo
  rw [hdomain] at hforwarding
  exact ⟨accepted, hforwarding⟩

end Build

end GatewayCompiler
