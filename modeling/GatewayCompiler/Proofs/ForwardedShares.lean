import GatewayCompiler.Proofs.ClusterNames
import GatewayCompiler.Proofs.Passthrough
import GatewayCompiler.Proofs.RefusedRoots
import GatewayCompiler.Proofs.Shares

/-!
# The shares of connections

A host over TLS that forwards its connections does so for one object, at which the delegations of its
root end and which lists services.  The services of a list may be given weights.  When the list is read
for a route, the weights are those of the clusters; when it is read for a forwarding, they are not
looked at, and the connections are split evenly.

## Main definitions

* `ListedBy` — the object that lists the services which the connections to a host are forwarded to.
* `ForwardsEvenly` — connections are forwarded to clusters without weights.
* `declaredShare`, `AsDeclared` — the shares that the weights of services come to.

## Main statements

* `TcpWalk.attaches` — what a walk over forwardings attaches.
* `exists_listedBy`, `ListedBy.unique` — every forwarding of a graph is listed by one object.
* `split_as_declared_iff` — the forwardings that are split as the weights say.
* `replicas_split_evenly` — a forwarding that is not.
-/

namespace GatewayCompiler.Build

open Proxy Relation

variable {cache : Cache} {name : String}

/-! ### Clusters without weights -/

/-- `ForwardsEvenly cache space services clusters` says that connections are forwarded to one of
`clusters` for each of `services`, and none of them has a weight. -/
structure ForwardsEvenly (cache : Cache) (space : String) (services : List ServiceSpec)
    (clusters : List Cluster) : Prop where
  /-- The clusters are those of the services. -/
  forwards : Forwards cache space services clusters
  /-- None of them has a weight. -/
  weightless : ∀ c ∈ clusters, c.weight = 0

/-- The weights of services are not looked at when connections are forwarded to them. -/
theorem ForwardsEvenly.of_forwardedTo {space : String} {services : List ServiceSpec}
    {clusters : List Cluster} (hservices : services ≠ [])
    (h : List.Forall₂ (Building.ForwardedTo cache space) services clusters) :
    ForwardsEvenly cache space services clusters where
  forwards := ⟨hservices, h.imp fun _ _ => Building.ForwardedTo.clusterOf⟩
  weightless := by
    intro c hc
    obtain ⟨s, hpair⟩ := exists_mem_zip h.length_eq hc
    obtain ⟨resolved, -, rfl⟩ := List.forall₂_zip h hpair
    rfl

/-! ### What a walk attaches -/

/-- `b.forwardedAt name` are the clusters that the connections to the host of a name go to, as far
as they are forwarded. -/
def Building.forwardedAt (name : String) (b : Building) : Option (List Cluster) :=
  (b.secureAt name).host.tcpProxy

/-- A host that lists services attaches a forwarding to all of them, or none if one of them is
missing. -/
theorem Building.forward_attaches {b : Building} (hb : b.lookups.Sound cache) (place : Place)
    (owner : Identity) (services : List ServiceSpec) :
    (¬ AllListed cache owner.space services ∧
      (b.forward cache place owner services).forwardedAt place.host = b.forwardedAt place.host) ∨
    AllListed cache owner.space services ∧ ∃ clusters,
      List.Forall₂ (ForwardedTo cache owner.space) services clusters ∧
      (b.forward cache place owner services).forwardedAt place.host = some clusters := by
  have hlisted := look_answer (forwardClusters_isOk_iff owner.space services) hb
  have hclusters := look_answer (forwardClusters_ports owner.space services) hb
  have hlook : (b.look (forwardClusters cache owner.space services)).2.forwardedAt place.host
      = b.forwardedAt place.host := rfl
  unfold forward
  generalize b.look (forwardClusters cache owner.space services) = found
    at hlisted hclusters hlook ⊢
  obtain ⟨result, b'⟩ := found
  cases result with
  -- an error leaves the host as it was, so whatever was forwarded before stays
  | error problem =>
    refine .inl ⟨fun hall => ?_, hlook⟩
    obtain ⟨_, ⟨⟩⟩ := hlisted.mpr hall
  | ok clusters =>
    refine .inr ⟨hlisted.mp ⟨clusters, rfl⟩, clusters, hclusters clusters rfl, ?_⟩
    change ((b'.onSecureHost place.host fun h =>
      { h with host := { h.host with tcpProxy := some clusters } }).secureAt place.host).host.tcpProxy = _
    rw [secureAt_onSecureHost, if_pos rfl]

/-- A forwarding ends at one host: `g` and `g'` have the same services. -/
theorem TcpFrame.Serves.unique {hosts : OrderedMap Identity GatewayHost} {f g g' : TcpFrame}
    {services services' : List ServiceSpec} (serves : g.Serves services) (serves' : g'.Serves services')
    (hg : TcpEnters hosts f g) (hg' : TcpEnters hosts f g') : g = g' ∧ services = services' := by
  have hsame : g = g' := by
    -- along the way from `f`: each frame hands over to one frame only, and the two that serve to
    -- none
    induction hg using ReflTransGen.head_induction_on with
    | refl =>
      rcases ReflTransGen.cases_head hg' with rfl | ⟨k, hk, -⟩
      · rfl
      · exact absurd hk serves.not_delegates
    | head hdel _ ih =>
      rcases ReflTransGen.cases_head hg' with rfl | ⟨k, hk, hrest⟩
      · exact absurd hdel serves'.not_delegates
      · obtain rfl := hdel.unique hk
        exact ih hrest
  subst hsame
  have hproxy := serves.1.symm.trans serves'.1
  cases hproxy
  exact ⟨rfl, rfl⟩

/-- `f.ComesTo cache g services` says that the hosts that a walk enters come to one that lists
`services`, all of which have their ports. -/
def TcpFrame.ComesTo (cache : Cache) (f g : TcpFrame) (services : List ServiceSpec) : Prop :=
  TcpEnters cache.gatewayHosts f g ∧ g.Serves services ∧ AllListed cache g.owner.space services

/-- A walk attaches a forwarding to all services of the host at which it ends, or none.  By
induction on the rules of the walk. -/
theorem TcpWalk.attaches {f : TcpFrame} {steps : List Step}
    (h : TcpWalk cache.gatewayHosts f steps) (place : Place) {b : Building}
    (hb : b.lookups.Sound cache) :
    ((∀ g services, ¬ f.ComesTo cache g services) ∧
      (b.takeAll cache place steps).forwardedAt place.host = b.forwardedAt place.host) ∨
    ∃ g services clusters, f.ComesTo cache g services ∧
      List.Forall₂ (Building.ForwardedTo cache g.owner.space) services clusters ∧
      (b.takeAll cache place steps).forwardedAt place.host = some clusters := by
  induction h generalizing b with
  | @reject f problem leads known unserved stuck =>
    refine .inl ⟨?_, Building.takeAll_keepsForwarding place ?_ b place.host⟩
    · rintro g services ⟨hg, serves, -⟩
      rcases ReflTransGen.cases_head hg with rfl | ⟨k, hk, -⟩
      · exact unserved services serves
      · exact stuck k hk
    · intro owner services hmem
      rcases List.mem_append.mp hmem with hmem | hmem
      · obtain ⟨t, -, heq⟩ := List.mem_map.mp hmem
        cases heq
      · cases List.mem_singleton.mp hmem
  | @forward f services serves =>
    rcases Building.forward_attaches hb place f.owner services with
      ⟨hmissing, hsame⟩ | ⟨hlisted, clusters, hclusters, hnew⟩
    · refine .inl ⟨?_, hsame⟩
      rintro g services' ⟨hg, serves', hlisted⟩
      obtain ⟨rfl, rfl⟩ := serves.unique serves' .refl hg
      exact hmissing hlisted
    · exact .inr ⟨f, services, clusters, ⟨.refl, serves, hlisted⟩, hclusters, hnew⟩
  | @enter f k inner delegates below ih =>
    -- the steps around those of the delegate change no host
    have hsteps : (b.takeAll cache place (.reach k.owner :: (inner ++ [.accept f.owner]))).forwardedAt
        place.host = ((b.reach k.owner).takeAll cache place inner).forwardedAt place.host := by
      change ((b.reach k.owner).takeAll cache place (inner ++ [.accept f.owner])).forwardedAt _ = _
      rw [Building.takeAll_append]
      rfl
    rw [hsteps]
    rcases @ih (b.reach k.owner) hb with
      ⟨hnone, hsame⟩ | ⟨g, services, clusters, ⟨hg, serves, hlisted⟩, hclusters, hnew⟩
    · refine .inl ⟨?_, hsame⟩
      rintro g services ⟨hg, serves, hlisted⟩
      rcases ReflTransGen.cases_head hg with rfl | ⟨k', hk', hrest⟩
      · exact serves.not_delegates delegates
      · obtain rfl := delegates.unique hk'
        exact hnone g services ⟨hrest, serves, hlisted⟩
    · exact .inr ⟨g, services, clusters, ⟨.head delegates hg, serves, hlisted⟩, hclusters, hnew⟩

/-! ### The object that lists the services -/

/-- `ListedBy cache name owner services` says that the connections to the host of a name are
forwarded for the object `owner`, which lists `services`: the root of the name is served and
forwards its connections, and its forwarding leads to the object. -/
def ListedBy (cache : Cache) (name : String) (owner : Identity) (services : List ServiceSpec) : Prop :=
  ∃ root host v mode f, Accepted cache root host v mode ∧ v.domain = name ∧
    mode.forwards host = true ∧ TcpEnters cache.gatewayHosts (.ofRoot root host) f ∧
    f.owner = owner ∧ f.Serves services

/-- The host of a name forwards for one object, as it has one accepted root. -/
theorem ListedBy.unique {owner owner' : Identity} {services services' : List ServiceSpec}
    (h : ListedBy cache name owner services) (h' : ListedBy cache name owner' services') :
    owner = owner' ∧ services = services' := by
  obtain ⟨root, host, v, mode, f, accepted, rfl, -, hf, rfl, serves⟩ := h
  obtain ⟨root', host', v', mode', f', accepted', hdomain, -, hf', rfl, serves'⟩ := h'
  have hroot := accepted'.alone
  rw [hdomain, accepted.alone] at hroot
  cases hroot
  have hhost := accepted'.found
  rw [accepted.found] at hhost
  cases hhost
  obtain ⟨rfl, hservices⟩ := serves.unique serves' hf hf'
  exact ⟨rfl, hservices⟩

/-- When the walk of an accepted root begins, its host forwards nothing, and what the walk attaches
to it stays: the roots after it have other names. -/
theorem Accepted.exists_opened [Pattern.Engine] {root : Identity} {host : GatewayHost}
    {v : VirtualHostSpec}
    {mode : TlsMode} (accepted : Accepted cache root host v mode) :
    ∃ opened : Building, opened.lookups.Sound cache ∧ opened.forwardedAt v.domain = none ∧
      (buildAll cache).forwardedAt v.domain =
        (opened.takeAll cache ⟨v.domain, mode.enforcesTls⟩
          (walkSteps cache root host v.domain mode)).forwardedAt v.domain := by
  obtain ⟨hbefore, hrest⟩ := buildAll_hostsAt accepted
  have hsound := buildBefore_sound cache root
  -- neither the check of the root nor its opening touches what a host forwards
  have hlook : Building.KeepsSecure (fun h => h.host.tcpProxy) (buildBefore cache root)
      ((buildBefore cache root).look (checkRoot cache root v).run).2 := .of_secure_eq rfl
  have hopen : Follows cache _ (buildBefore cache root) _ :=
    (Building.look_follows (checkRoot_answers root v) (buildBefore cache root)).append
      (Building.openRoot_follows root host v mode _)
  have hkeeps := hlook.trans (@Building.openRoot_keepsSecure cache _ _ root host v mode _
    fun _ _ _ _ _ => rfl)
  refine ⟨_, hopen.lookups hsound, ?_, ?_⟩
  · refine (hkeeps v.domain).trans ?_
    rw [Building.secureAt_congr hbefore]
    exact addIngresses_keepsSecure cache v.domain
  · rw [Building.forwardedAt, Building.secureAt_congr hrest, Building.addRoot_eq accepted hsound]
    rfl

/-- Without an accepted root nothing is forwarded to the host of a name. -/
theorem Unaccepted.forwardedAt [Pattern.Engine] (hnone : Unaccepted cache name) :
    (buildAll cache).forwardedAt name = none := by
  rw [Building.forwardedAt, Building.secureAt_congr (buildAll_hostsAt_of_unaccepted hnone)]
  exact addIngresses_keepsSecure cache name

/-- The connections to a host are forwarded evenly to the services that an object lists, by
`ForwardsEvenly`. -/
theorem exists_listedBy [Pattern.Engine] {clusters : List Cluster}
    (hforwarded : (buildAll cache).forwardedAt name = some clusters) :
    ∃ owner services, ListedBy cache name owner services ∧
      ForwardsEvenly cache owner.space services clusters := by
  by_cases hnone : Unaccepted cache name
  · rw [hnone.forwardedAt] at hforwarded
    cases hforwarded
  unfold Unaccepted at hnone
  push Not at hnone
  obtain ⟨root, host, v, mode, accepted, rfl⟩ := hnone
  obtain ⟨opened, hsound, hopened, hwalk⟩ := accepted.exists_opened
  rw [hforwarded, walkSteps] at hwalk
  -- only a walk that forwards connections attaches a forwarding
  cases hmode : mode.forwards host with
  | false =>
    rw [hmode, if_neg Bool.false_ne_true] at hwalk
    have hkeeps : Building.KeepsSecure (fun h => h.host.tcpProxy) opened
        (opened.takeAll cache ⟨v.domain, mode.enforcesTls⟩ (serveSteps cache root host v.domain)) :=
      Building.takeAll_keepsForwarding _ (forward_notMem_serveSteps root host v.domain) opened
    cases (hwalk.trans (hkeeps v.domain)).trans hopened
  | true =>
    rw [hmode, if_pos rfl] at hwalk
    rcases (walk_forwardSteps root host).attaches ⟨v.domain, mode.enforcesTls⟩ hsound with
      ⟨-, hsame⟩ | ⟨f, services, clusters', ⟨hf, serves, -⟩, hclusters, hnew⟩
    · rw [hopened] at hsame
      cases hwalk.trans hsame
    · cases hwalk.trans hnew
      exact ⟨f.owner, services, ⟨root, host, v, mode, f, accepted, rfl, hmode, hf, rfl, serves⟩,
        .of_forwardedTo serves.2 hclusters⟩

/-! ### Shares -/

/-- `declaredShare services s` is the share that the weight of `s` comes to among `services`: the
weight itself, or one where no service has any weight. -/
def declaredShare (services : List ServiceSpec) (s : ServiceSpec) : Nat :=
  if ∀ t ∈ services, t.weight = 0 then 1 else min s.weight.toNat maxShare

/-- `AsDeclared services clusters entries` says that connections are split as the weights of
services say: there is one entry for each service, with the share that its weight comes to. -/
def AsDeclared (services : List ServiceSpec) (clusters : List Cluster)
    (entries : List (String × Nat)) : Prop :=
  entries.Perm ((services.zip clusters).map fun p => (p.2.messageName, declaredShare services p.1))

/-- Every weight comes to a share of one exactly if there is no weight at all, or if all of them are
one. -/
theorem declaredShare_eq_one_iff {services : List ServiceSpec} :
    (∀ s ∈ services, declaredShare services s = 1) ↔
      (∀ s ∈ services, s.weight = 0) ∨ ∀ s ∈ services, s.weight = 1 := by
  have hmax : 1 < maxShare := by decide
  unfold declaredShare
  by_cases hzero : ∀ t ∈ services, t.weight = 0
  · simp only [if_pos hzero]
    exact iff_of_true (fun _ _ => trivial) (.inl hzero)
  · simp only [if_neg hzero, or_iff_right hzero]
    refine forall₂_congr fun s _ => ?_
    omega

/-- Connections that are split evenly are split as the weights say if and only if these are all
alike, zero or one. -/
theorem asDeclared_iff {services : List ServiceSpec} {clusters : List Cluster}
    {entries : List (String × Nat)} (hlength : services.length = clusters.length)
    (hentries : entries.Perm (clusters.map fun c => (c.messageName, 1))) :
    AsDeclared services clusters entries ↔
      (∀ s ∈ services, s.weight = 0) ∨ ∀ s ∈ services, s.weight = 1 := by
  rw [← declaredShare_eq_one_iff]
  constructor
  -- each cluster has the share one, so the declared shares must all be one
  · intro hdeclared s hs
    rw [← List.map_fst_zip (Nat.le_of_eq hlength)] at hs
    obtain ⟨p, hp, rfl⟩ := List.mem_map.mp hs
    have hentry := hentries.mem_iff.mp (hdeclared.mem_iff.mpr (List.mem_map_of_mem hp))
    obtain ⟨c, -, heq⟩ := List.mem_map.mp hentry
    exact (congrArg Prod.snd heq).symm
  · intro hone
    have hshares : ((services.zip clusters).map fun p => (p.2.messageName, declaredShare services p.1))
        = (services.zip clusters).map fun p => (p.2.messageName, 1) :=
      List.map_congr_left fun p hp => by rw [hone p.1 (List.of_mem_zip hp).1]
    have hclusters : ((services.zip clusters).map fun p => (p.2.messageName, 1))
        = clusters.map fun c => (c.messageName, 1) := by
      conv_rhs => rw [← List.map_snd_zip (Nat.le_of_eq hlength.symm), List.map_map]
      rfl
    rw [AsDeclared, hshares, hclusters]
    exact hentries

/-! ### The split of a forwarding -/

/-- Several clusters without weights are split evenly. -/
theorem tcpClusters_of_weightless {clusters : List Cluster} (several : clusters.length ≠ 1)
    (weightless : ∀ c ∈ clusters, c.weight = 0) :
    ∃ entries, tcpClusters clusters = .weighted entries ∧
      entries.Perm (clusters.map fun c => (c.messageName, 1)) := by
  refine ⟨_, tcpClusters_of_several several, ?_⟩
  have hcounted : countedShares clusters = clusters.map fun c => (c.messageName, 1) := by
    unfold countedShares countedWeight
    simp only [if_pos weightless]
  rw [← hcounted]
  exact (splitsConnections_mergeSort clusters).perm

/-- The chain of a host that forwards its connections does nothing else: its only filter is the
forwarding. -/
theorem filters_of_tcpProxy [Pattern.Engine] {h : SecureHost}
    (attached : (Graph.build cache).host? Listener.secureRole name = some (.secure h))
    {clusters : List Cluster} (tcp : h.host.tcpProxy = some clusters) {config : ProxyConfig}
    {chain : FilterChain} (hmem : chain ∈ ((Graph.build cache).snapshot config).filterChains)
    (hserver : chain.serverNames = some [name]) :
    chain.filters = [tcpProxyFilter ListenerRole.secure.name clusters] := by
  cases (SecureHost.chained_of_chain? (chain?_of_serverNames attached hmem hserver)).1 with
  | forwards tcp' filters =>
    rw [tcp, Option.some.injEq] at tcp'
    rw [filters, tcp']
  | serves tcp' filters =>
    rw [tcp] at tcp'
    cases tcp'

/-- The connections to a host are split evenly over the services that its object lists, whatever
weights these have. -/
theorem splits_evenly [Pattern.Engine] {h : SecureHost}
    (attached : (Graph.build cache).host? Listener.secureRole name = some (.secure h))
    {clusters : List Cluster} (tcp : h.host.tcpProxy = some clusters) {owner : Identity}
    {services : List ServiceSpec} (listed : ListedBy cache name owner services)
    (several : 2 ≤ services.length) :
    Forwards cache owner.space services clusters ∧
    ∀ config, ∀ chain ∈ ((Graph.build cache).snapshot config).filterChains,
      chain.serverNames = some [name] →
      ∃ entries, chain.filters = [.tcpProxy ListenerRole.secure.name (.weighted entries)] ∧
        entries.Perm (clusters.map fun c => (c.messageName, 1)) := by
  have hforwarded : (buildAll cache).forwardedAt name = some clusters := by
    rw [Building.forwardedAt, Building.secureAt_of_find? (find?_of_host? attached), tcp]
  obtain ⟨owner', services', listed', heven⟩ := exists_listedBy hforwarded
  obtain ⟨rfl, rfl⟩ := listed.unique listed'
  refine ⟨heven.forwards, fun config chain hmem hserver => ?_⟩
  have hlength := heven.forwards.clusters.length_eq
  obtain ⟨entries, hentries, hperm⟩ := tcpClusters_of_weightless (by omega) heven.weightless
  refine ⟨entries, ?_, hperm⟩
  rw [filters_of_tcpProxy attached tcp hmem hserver, tcpProxyFilter, hentries]

/-- **When connections are split as declared.** The connections to a host over TLS are forwarded to
services that an object lists.  If it lists several, there is a chain for the name of the host, and
in every chain for it the connections are split evenly.  This is what the weights of the services
say if all of them are zero or all of them are one. -/
theorem split_as_declared_iff [Pattern.Engine] {h : SecureHost}
    (attached : (Graph.build cache).host? Listener.secureRole name = some (.secure h))
    {clusters : List Cluster} (tcp : h.host.tcpProxy = some clusters) :
    (∃ owner services, ListedBy cache name owner services) ∧
    ∀ owner services, ListedBy cache name owner services → 2 ≤ services.length →
      Forwards cache owner.space services clusters ∧
      ∀ config,
        (∃ chain ∈ ((Graph.build cache).snapshot config).filterChains,
          chain.serverNames = some [name]) ∧
        ∀ chain ∈ ((Graph.build cache).snapshot config).filterChains,
          chain.serverNames = some [name] →
          ∃ entries, chain.filters = [.tcpProxy ListenerRole.secure.name (.weighted entries)] ∧
            entries.Perm (clusters.map fun c => (c.messageName, 1)) ∧
            (AsDeclared services clusters entries ↔
              (∀ s ∈ services, s.weight = 0) ∨ ∀ s ∈ services, s.weight = 1) := by
  have hforwarded : (buildAll cache).forwardedAt name = some clusters := by
    rw [Building.forwardedAt, Building.secureAt_of_find? (find?_of_host? attached), tcp]
  obtain ⟨owner, services, listed, -⟩ := exists_listedBy hforwarded
  refine ⟨⟨owner, services, listed⟩, fun owner services listed several => ?_⟩
  obtain ⟨hforwards, hsplit⟩ := splits_evenly attached tcp listed several
  refine ⟨hforwards, fun config => ⟨exists_chain_of_forwards attached tcp config, ?_⟩⟩
  intro chain hmem hserver
  obtain ⟨entries, hfilters, hperm⟩ := hsplit config chain hmem hserver
  exact ⟨entries, hfilters, hperm, asDeclared_iff hforwards.clusters.length_eq hperm⟩

/-! ### A forwarding with weights -/

/-- The service `name` with a weight. -/
def weightedService (name : String) (number weight : Int) : ServiceSpec :=
  ⟨name, number, weight, none, none, none, none, none, []⟩

/-- Services of which one is to get more connections than the other one. -/
def replicaServices : List ServiceSpec :=
  [weightedService "primary" 5432 30, weightedService "replica" 5433 70]

/-- A root that passes its connections on to `replicaServices`. -/
def replicaRoot : GatewayHost where
  metadata := { name := some "db", space := some "default" }
  virtualHost := some ⟨"db.test", some passedOn, []⟩
  routes := []
  tcpProxy := some ⟨replicaServices, none⟩

/-- A cache with the root and the services. -/
def replicaCache : Cache where
  gatewayHosts := .ofList [(⟨"default", "db"⟩, replicaRoot)]
  services := .ofList [
    (⟨"default", "primary"⟩,
      ⟨{ name := some "primary", space := some "default" }, none, none, [⟨none, 5432⟩]⟩),
    (⟨"default", "replica"⟩,
      ⟨{ name := some "replica", space := some "default" }, none, none, [⟨none, 5433⟩]⟩)]

/-- What connections to one of the services are forwarded to. -/
def replicaCluster (name : String) (number : Int) : Cluster :=
  .ofBackend ⟨{ service := ⟨"default", name⟩, portName := none, portNumber := number }, .tcp⟩

theorem replica_accepted : Accepted replicaCache ⟨"default", "db"⟩ replicaRoot
    ⟨"db.test", some passedOn, []⟩ .passthrough := ⟨rfl, rfl, rfl, rfl⟩

theorem replica_listed : ListedBy replicaCache "db.test" ⟨"default", "db"⟩ replicaServices :=
  ⟨⟨"default", "db"⟩, replicaRoot, _, _, _, replica_accepted, rfl, rfl, .refl, rfl, rfl,
    List.cons_ne_nil _ _⟩

theorem replica_buildAll [Pattern.Engine] :
    buildAll replicaCache =
      (((sortHosts replicaCache (addIngresses replicaCache)).look
        (checkRoot replicaCache ⟨"default", "db"⟩ ⟨"db.test", some passedOn, []⟩).run).2.openRoot
          replicaCache ⟨"default", "db"⟩ replicaRoot ⟨"db.test", some passedOn, []⟩
            .passthrough).takeAll
        replicaCache ⟨"db.test", false⟩ [.forward ⟨"default", "db"⟩ replicaServices] := by
  have hsteps : walkSteps replicaCache ⟨"default", "db"⟩ replicaRoot "db.test" .passthrough
      = [.forward ⟨"default", "db"⟩ replicaServices] := by
    change tcpSteps _ _ _ _ = _
    rw [tcpSteps_eq]
    rfl
  rw [buildAll_of_single rfl replica_accepted]
  exact congrArg (fun steps => Building.takeAll _ ⟨"db.test", false⟩ steps _) hsteps

theorem replica_attached [Pattern.Engine] : ∃ h,
    (Graph.build replicaCache).host? Listener.secureRole "db.test" = some (.secure h) ∧
    h.host.tcpProxy = some [replicaCluster "primary" 5432, replicaCluster "replica" 5433] := by
  unfold Graph.build
  rw [replica_buildAll]
  exact ⟨_, rfl, rfl⟩

/-- The weights of the services are not all alike, so that an even split is not the declared one. -/
theorem replicas_unlike : ¬ ((∀ s ∈ replicaServices, s.weight = 0) ∨ ∀ s ∈ replicaServices, s.weight = 1) := by
  decide

/-- The connections are split evenly, and not as the weights say. -/
theorem replica_split : ∃ h clusters,
    (Graph.build replicaCache).host? Listener.secureRole "db.test" = some (.secure h) ∧
    h.host.tcpProxy = some clusters ∧
    ListedBy replicaCache "db.test" ⟨"default", "db"⟩ replicaServices ∧ 2 ≤ replicaServices.length ∧
    ∀ config,
      (∃ chain ∈ ((Graph.build replicaCache).snapshot config).filterChains,
        chain.serverNames = some ["db.test"]) ∧
      ∀ chain ∈ ((Graph.build replicaCache).snapshot config).filterChains,
        chain.serverNames = some ["db.test"] →
        ∃ entries, chain.filters = [.tcpProxy ListenerRole.secure.name (.weighted entries)] ∧
          entries.Perm (clusters.map fun c => (c.messageName, 1)) ∧
          ¬ AsDeclared replicaServices clusters entries := by
  obtain ⟨h, attached, tcp⟩ := replica_attached
  have several : 2 ≤ replicaServices.length := by decide
  refine ⟨h, _, attached, tcp, replica_listed, several, fun config => ?_⟩
  obtain ⟨-, hall⟩ := split_as_declared_iff attached tcp
  obtain ⟨hexists, hchains⟩ := (hall _ _ replica_listed several).2 config
  refine ⟨hexists, fun chain hmem hserver => ?_⟩
  obtain ⟨entries, hfilters, hperm, hdeclared⟩ := hchains chain hmem hserver
  exact ⟨entries, hfilters, hperm, fun h => replicas_unlike (hdeclared.mp h)⟩

/-- The clusters have different names. -/
theorem replica_names :
    ([replicaCluster "primary" 5432, replicaCluster "replica" 5433].map Cluster.messageName).Nodup := by
  have hshort : ¬ (replicaCluster "primary" 5432).IsLong := by
    unfold Cluster.IsLong Cluster.fullName Cluster.segments
    rw [length_joinSegments_four, Cluster.length_digest]
    decide
  have apart : Apart (replicaCluster "primary" 5432) (replicaCluster "replica" 5433) :=
    ⟨fun _ => rfl, fun hlong => absurd hlong hshort⟩
  rw [List.map_cons, List.map_cons, List.map_nil, List.nodup_cons]
  refine ⟨fun hmem => ?_, List.nodup_singleton _⟩
  have hport := portNumber_eq_of_messageName_eq apart (List.mem_singleton.mp hmem)
  exact absurd hport (by decide)

/-- Not all forwardings are split as the weights of the services say. -/
theorem replicas_split_evenly :
    ¬ ∀ (cache : Cache) (name : String) (h : SecureHost) (clusters : List Cluster) (owner : Identity)
      (services : List ServiceSpec),
      (Graph.build cache).host? Listener.secureRole name = some (.secure h) →
      h.host.tcpProxy = some clusters → ListedBy cache name owner services → 2 ≤ services.length →
      (clusters.map Cluster.messageName).Nodup → (∀ s ∈ services, 0 ≤ s.weight) → ∀ config,
      ∀ chain ∈ ((Graph.build cache).snapshot config).filterChains, chain.serverNames = some [name] →
        ∃ entries, chain.filters = [.tcpProxy ListenerRole.secure.name (.weighted entries)] ∧
          AsDeclared services clusters entries := by
  intro hall
  obtain ⟨h, attached, tcp⟩ := replica_attached
  have several : 2 ≤ replicaServices.length := by decide
  obtain ⟨chain, hmem, hserver⟩ := exists_chain_of_forwards attached tcp {}
  obtain ⟨entries, hfilters, hdeclared⟩ := hall _ _ h _ _ _ attached tcp replica_listed several
    replica_names (by decide) {} chain hmem hserver
  obtain ⟨hforwards, hsplit⟩ := splits_evenly attached tcp replica_listed several
  obtain ⟨entries', hfilters', hperm⟩ := hsplit {} chain hmem hserver
  rw [hfilters] at hfilters'
  cases hfilters'
  exact replicas_unlike ((asDeclared_iff hforwards.clusters.length_eq hperm).mp hdeclared)

end GatewayCompiler.Build
