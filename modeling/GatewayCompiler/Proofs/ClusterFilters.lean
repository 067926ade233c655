import GatewayCompiler.Proofs.Acceptance
import GatewayCompiler.Proofs.Shares

/-!
# Filters of clusters in a split

The filters of a service are attached to its cluster.  Where all requests of a route go to one cluster,
its filters take effect as if they were filters of the route.  Where the requests are split, there is an
entry for each name of a cluster, and a filter can only take effect through what the entry changes.  Two
things get lost on the way.  A filter for the host header changes nothing in an entry.  And clusters for
the same port with the same settings share their name, even if their filters differ: only the filters of
the first one of them have an entry.

## Main definitions

* `ClusterFilter` — a filter of a cluster of a route, with a name of its own.
* `ClusterFilter.Carried` — the route as the proxy knows it carries the effect of the filter.
* `changing?` — the filter that says what is changed under a name.
* `ClusterFilter.Heard` — the entry says what the filter would say.

## Main statements

* `find?_overrides_cluster` — what the filters of a cluster change.
* `find?_split` — an entry changes what the first cluster of its name says.
* `ClusterFilter.carried_iff` — when the effect of a filter is carried.
* `Build.build_split_carries_iff` — the same for a built graph.
* `Build.canary_filters_lost` — a canary with a filter of its own, and a host header, that are lost.
-/

namespace GatewayCompiler

open Proxy

/-! ### What the filters of a cluster change -/

namespace Filter

variable {f : Filter}

/-- A filter that is read for clusters turns on the filter of its name in connection managers, with
what it puts in its place there. -/
theorem override?_of_cluster {s : FilterSettings} (h : f.settings .cluster = .ok s)
    (hk : f.kind.isHttpFilter) :
    f.override? .cluster = some (.enabled (f.overrideConfig? .cluster)) := by
  have hhost : f.settings .virtualHost = .ok s := FilterSettings.parse_of_cluster h hk
  obtain ⟨-, hturned, -⟩ := Filter.of_settings hhost
  unfold override? overrideConfig? chainConfig? at hturned ⊢
  rw [hhost] at hturned
  rw [h]
  exact hturned

theorem overrideConfig?_eq {scope : FilterScope} {s : FilterSettings} {payload : Option OverrideConfig}
    (h : f.settings scope = .ok s) (hpayload : s.overrideConfig = .ok payload) :
    f.overrideConfig? scope = payload := by
  unfold overrideConfig?
  rw [h]
  simp only [hpayload]

end Filter

/-- `changing? filters name` is the filter that says what is changed under `name`: the last one of
that name that has a place in connection managers. -/
def changing? (filters : List Filter) (name : String) : Option Filter :=
  filters.reverse.find? fun g => g.name = name && g.kind.isHttpFilter

theorem changing?_append_cons {front back : List Filter} {f : Filter}
    (alone : ∀ g ∈ front ++ back, g.name ≠ f.name) :
    changing? (front ++ f :: back) f.name = if f.kind.isHttpFilter then some f else none := by
  have hnone : ∀ filters : List Filter, (∀ g ∈ filters, g.name ≠ f.name) →
      filters.reverse.find? (fun g => g.name = f.name && g.kind.isHttpFilter) = none := by
    intro filters hfilters
    rw [List.find?_eq_none]
    intro g hg
    simp [hfilters g (List.mem_reverse.mp hg)]
  rw [List.forall_mem_append] at alone
  unfold changing?
  rw [List.reverse_append, List.reverse_cons, List.append_assoc, List.find?_append, hnone _ alone.2,
    Option.none_or, List.find?_append, hnone _ alone.1, Option.or_none, List.find?_singleton]
  simp

/-- What the filters of a cluster change under `name` is what `changing?` finds, since a later entry
of `overrides` replaces an earlier one. -/
theorem find?_overrides_cluster {filters : List Filter}
    (settings : ∀ f ∈ filters, ∃ s, f.settings .cluster = .ok s) (name : String) :
    (overrides filters .cluster).find? name =
      (changing? filters name).map fun g => .enabled (g.overrideConfig? .cluster) := by
  -- a filter changes something exactly if its kind has a place in connection managers
  have hchange : ∀ g ∈ filters, (g.override? .cluster).map (g.name, ·) =
      if g.kind.isHttpFilter then some (g.name, .enabled (g.overrideConfig? .cluster)) else none := by
    intro g hg
    by_cases hkind : g.kind.isHttpFilter
    · obtain ⟨s, hs⟩ := settings g hg
      rw [Filter.override?_of_cluster hs hkind, if_pos hkind, Option.map_some]
    · rw [Filter.override?, if_neg (fun h => hkind h.1), if_neg hkind, Option.map_none]
  unfold overrides changing?
  rw [List.filterMap_congr hchange, OrderedMap.find?_ofList, ← List.filterMap_reverse]
  -- the induction is on the filters from the last to the first, as the last one of a name counts
  induction filters.reverse with
  | nil => rfl
  | cons g rest ih =>
    by_cases hkind : g.kind.isHttpFilter
    · by_cases hname : g.name = name
      · simp [hkind, hname]
      · simpa [hkind, hname] using ih
    · simpa [hkind] using ih

/-! ### Entries of a split -/

/-- A cluster that `addShare` adds changes what is said under its name only if nothing is there
yet. -/
theorem find?_overrides_addShare (known : OrderedMap String WeightedCluster) (share : Cluster × Nat)
    (name : String) :
    ((addShare known share).find? name).map WeightedCluster.overrides =
      ((known.find? name).map WeightedCluster.overrides).or
        (if share.1.messageName = name then some (overrides share.1.filters .cluster) else none) := by
  unfold addShare
  simp only
  split
  -- a new name gets what the cluster changes, and a known one keeps what it has
  · next hnew =>
    rw [OrderedMap.find?_insert]
    by_cases hname : share.1.messageName = name
    · rw [if_pos hname.symm, if_pos hname, ← hname, hnew]
      rfl
    · rw [if_neg (Ne.symm hname), if_neg hname, Option.or_none]
  · next entry hentry =>
    rw [OrderedMap.find?_insert]
    by_cases hname : share.1.messageName = name
    · rw [if_pos hname.symm, ← hname, hentry]
      rfl
    · rw [if_neg (Ne.symm hname), if_neg hname, Option.or_none]

/-- Of the clusters of a name, the first one says what is changed.  The induction is on the clusters
that are left, with any map of `known` ones. -/
theorem find?_overrides_foldl_addShare (list : List (Cluster × Nat))
    (known : OrderedMap String WeightedCluster) (name : String) :
    ((list.foldl addShare known).find? name).map WeightedCluster.overrides =
      ((known.find? name).map WeightedCluster.overrides).or
        ((list.find? fun s => s.1.messageName = name).map fun s => overrides s.1.filters .cluster) := by
  induction list generalizing known with
  | nil => simp
  | cons share rest ih =>
    rw [List.foldl_cons, ih, find?_overrides_addShare, Option.or_assoc, List.find?_cons]
    by_cases hname : share.1.messageName = name
    · simp [hname]
    · simp [hname]

/-- There is an entry under the name of every cluster, and it changes what the first cluster of the name
says. -/
theorem find?_split (clusters : List Cluster) (name : String) :
    (((shares clusters).foldl addShare {}).find? name).map WeightedCluster.overrides =
      (clusters.find? fun c => c.messageName = name).map fun c => overrides c.filters .cluster := by
  have hnone : ({} : OrderedMap String WeightedCluster).find? name = none := rfl
  rw [find?_overrides_foldl_addShare, hnone, Option.map_none, Option.none_or, shares_eq,
    List.find?_map, Option.map_map]
  rfl

/-! ### Filters of clusters -/

/-- A filter of a cluster of the route `r`, with what stands before and behind it.  No other filter
of the cluster has its name. -/
structure ClusterFilter (r : Route) where
  /-- The clusters in front. -/
  before : List Cluster
  /-- The cluster. -/
  cluster : Cluster
  /-- The clusters behind. -/
  after : List Cluster
  /-- The cluster is one of the route. -/
  clusters_eq : r.clusters = before ++ cluster :: after
  /-- The filters of the cluster in front. -/
  front : List Filter
  /-- The filter. -/
  filter : Filter
  /-- The filters of the cluster behind. -/
  back : List Filter
  /-- The filter is one of the cluster. -/
  filters_eq : cluster.filters = front ++ filter :: back
  /-- The others have other names. -/
  alone : ∀ g ∈ front ++ back, g.name ≠ filter.name

namespace ClusterFilter

variable {r : Route}

/-- `p.without` is the route with the filter taken out of its cluster. -/
def without (p : ClusterFilter r) : Route :=
  { r with
    clusters := p.before ++ { p.cluster with filters := p.front ++ p.back } :: p.after }

/-- `Carried role p` says that the route as the proxy knows it carries the effect of the filter of
`p`. -/
inductive Carried (role : ListenerRole) (p : ClusterFilter r) : Prop
  /-- The filter has a place in connection managers, and the entry of the cluster turns it on with what
  its settings put in its place. -/
  | entry {action : RouteAction} {split : List WeightedCluster} {w : WeightedCluster}
      {s : FilterSettings} {payload : Option OverrideConfig} (http : p.filter.kind.isHttpFilter)
      (sent : (r.message role).action = .route action) (splits : action.clusters = .weighted split)
      (mem : w ∈ split) (name : w.name = p.cluster.messageName)
      (settings : p.filter.settings .cluster = .ok s) (override : s.overrideConfig = .ok payload)
      (there : w.overrides.find? p.filter.name = some (.enabled payload)) : Carried role p
  /-- The filter sets the host header, and the route would be another one without it. -/
  | hostHeader (kind : p.filter.kind = .hostHeader) (differs : r.message role ≠ p.without.message role) :
      Carried role p

/-- `p.Heard` says that the entry of the cluster says what the filter would say: the first cluster
of the name has a filter of the same name that puts the same in the place of the filter. -/
def Heard (p : ClusterFilter r) : Prop :=
  ∃ first g, r.clusters.find? (fun c => c.messageName = p.cluster.messageName) = some first ∧
    changing? first.filters p.filter.name = some g ∧
    g.overrideConfig? .cluster = p.filter.overrideConfig? .cluster

/-- The filters of the first cluster of a name are heard: no cluster of `p.before` has that name. -/
theorem heard_of_first (p : ClusterFilter r) (http : p.filter.kind.isHttpFilter)
    (first : ∀ d ∈ p.before, d.messageName ≠ p.cluster.messageName) : p.Heard := by
  refine ⟨p.cluster, p.filter, ?_, ?_, rfl⟩
  · rw [p.clusters_eq, List.find?_append, List.find?_eq_none.mpr (by simpa using first)]
    simp
  · rw [p.filters_eq, changing?_append_cons p.alone, if_pos http]

/-- Behind a cluster `d` of the same name only what `d` says is heard. -/
theorem heard_iff_of_twin (p : ClusterFilter r) {d : Cluster} {rest : List Cluster}
    (hbefore : p.before = d :: rest) (hname : d.messageName = p.cluster.messageName) :
    p.Heard ↔ ∃ g, changing? d.filters p.filter.name = some g ∧
      g.overrideConfig? .cluster = p.filter.overrideConfig? .cluster := by
  have hfirst : r.clusters.find? (fun c => c.messageName = p.cluster.messageName) = some d := by
    rw [p.clusters_eq, hbefore, List.cons_append]
    exact List.find?_cons_of_pos (decide_eq_true hname)
  constructor
  · rintro ⟨first, g, hfound, hg, hsame⟩
    rw [hfirst, Option.some.injEq] at hfound
    exact ⟨g, hfound ▸ hg, hsame⟩
  · rintro ⟨g, hg, hsame⟩
    exact ⟨d, g, hfirst, hg, hsame⟩

theorem mem_filters (p : ClusterFilter r) : p.filter ∈ r.clusters.flatMap Cluster.filters := by
  rw [p.clusters_eq]
  simp [p.filters_eq]

/-! ### Host headers -/

theorem addShare_congr (known : OrderedMap String WeightedCluster) {c d : Cluster} (weight : Nat)
    (hname : c.messageName = d.messageName)
    (hoverrides : overrides c.filters .cluster = overrides d.filters .cluster) :
    addShare known (c, weight) = addShare known (d, weight) := by
  unfold addShare
  simp only [hname, hoverrides]

/-- A filter without a place in connection managers does not change what `overrides` makes of the
others. -/
theorem overrides_without {front back : List Filter} {f : Filter} (h : ¬ f.kind.isHttpFilter)
    (scope : FilterScope) : overrides (front ++ back) scope = overrides (front ++ f :: back) scope := by
  have hnone : f.override? scope = none := if_neg fun hboth => h hboth.1
  unfold overrides
  rw [List.filterMap_append, List.filterMap_append, List.filterMap_cons, hnone]
  rfl

/-- The split is the same without a filter that has no place in connection managers, as it is made
of names, weights and `overrides`. -/
theorem split_without (p : ClusterFilter r) (h : ¬ p.filter.kind.isHttpFilter) :
    (shares p.without.clusters).foldl addShare {} = (shares r.clusters).foldl addShare {} := by
  have hweights : ∀ c, countedWeight p.without.clusters c = countedWeight r.clusters c := by
    intro c
    unfold countedWeight without
    rw [p.clusters_eq]
    simp only [List.forall_mem_append, List.forall_mem_cons]
  rw [shares_eq, shares_eq, funext fun c => congrArg (Prod.mk c) (hweights c)]
  unfold without
  rw [p.clusters_eq]
  simp only [List.map_append, List.map_cons, List.foldl_append, List.foldl_cons]
  congr 1
  -- the cluster has the same name and the same weight, and its other filters change the same
  exact addShare_congr _ _ rfl (by rw [p.filters_eq]; exact overrides_without h .cluster)

theorem soleFilters_of_several {clusters : List Cluster} (several : 2 ≤ clusters.length) :
    soleFilters clusters = [] := by
  unfold soleFilters
  split
  · exact absurd several (Nat.not_succ_le_self 1)
  · rfl

/-- Where requests are split, the proxy is told the same without a filter that has no place in
connection managers: nothing of `soleFilters` is applied to the route. -/
theorem message_without (p : ClusterFilter r) (several : 2 ≤ r.clusters.length)
    (h : ¬ p.filter.kind.isHttpFilter) (role : ListenerRole) :
    p.without.message role = r.message role := by
  -- everything of which a route is rendered is the same without the filter
  have hlength : p.without.clusters.length = r.clusters.length := by
    rw [without, p.clusters_eq, List.length_append, List.length_append, List.length_cons,
      List.length_cons]
  have hspecifier : clusterSpecifier p.without.clusters = clusterSpecifier r.clusters := by
    rw [clusterSpecifier_of_several (by omega), clusterSpecifier_of_several (by omega),
      p.split_without h]
  have hcookie : (p.without.clusters.any fun c => c.strategy = .cookie)
      = r.clusters.any fun c => c.strategy = .cookie := by
    rw [without, p.clusters_eq, List.any_append, List.any_append, List.any_cons, List.any_cons]
  have hsole : soleFilters p.without.clusters = soleFilters r.clusters := by
    rw [soleFilters_of_several (by omega), soleFilters_of_several several]
  have hbase : p.without.baseAction = r.baseAction := by
    unfold Route.baseAction
    rw [hspecifier, hcookie]
    rfl
  have haction : p.without.action = r.action := by
    unfold Route.action
    rw [hsole, hbase]
    rfl
  have hoverrides : p.without.overrides = r.overrides := by
    unfold Route.overrides
    rw [hsole]
    rfl
  unfold Route.message
  rw [haction, hoverrides]
  rfl

/-! ### What is carried -/

/-- The requests of a route with several clusters are split: the action that is `sent` lists the
shares. -/
theorem clusters_of_several {role : ListenerRole} {action : RouteAction}
    (several : 2 ≤ r.clusters.length) (sent : (r.message role).action = .route action) :
    action.clusters = .weighted ((shares r.clusters).foldl addShare {}).values := by
  have haction : action = r.action := by
    change (if role = .plain ∧ r.httpsUpgrade then Action.redirect else .route r.action) = _ at sent
    split at sent
    · cases sent
    · exact (Action.route.inj sent).symm
  rw [haction, Route.action_clusters, clusterSpecifier_of_several (by omega)]

/-- The effect of a filter is carried if and only if it has a place in connection managers, and the
entry of the cluster says what the filter would say. -/
theorem carried_iff (p : ClusterFilter r) (attaches : Build.Attaches r)
    (several : 2 ≤ r.clusters.length) {role : ListenerRole} {action : RouteAction}
    (sent : (r.message role).action = .route action) :
    p.Carried role ↔ p.filter.kind.isHttpFilter ∧ p.Heard := by
  have hsplit := clusters_of_several several sent
  have hkeyed := (shares_foldl_addShare r.clusters).keyed
  obtain ⟨settings, hsettings⟩ := attaches.cluster _ p.mem_filters
  obtain ⟨payload, hpayload⟩ := (renders_of_parse hsettings).override
  have hown : p.filter.overrideConfig? .cluster = payload :=
    Filter.overrideConfig?_eq hsettings hpayload
  -- what the filters of a cluster of the route change
  have hchange : ∀ first, r.clusters.find? (fun c => c.messageName = p.cluster.messageName) = some first →
      (overrides first.filters .cluster).find? p.filter.name =
        (changing? first.filters p.filter.name).map fun g => .enabled (g.overrideConfig? .cluster) := by
    intro first hfirst
    refine find?_overrides_cluster (fun f hf => attaches.cluster f ?_) _
    exact List.mem_flatMap.mpr ⟨first, List.mem_of_find?_eq_some hfirst, hf⟩
  have hentry := find?_split r.clusters p.cluster.messageName
  constructor
  · rintro (⟨http, sent', splits, mem, name, hsettings', override, there⟩ | ⟨kind, differs⟩)
    · refine ⟨http, ?_⟩
      rw [clusters_of_several several sent', ClusterSpecifier.weighted.injEq] at splits
      rw [← splits, hkeyed.mem_values_iff, name] at mem
      rw [mem, Option.map_some] at hentry
      obtain ⟨first, hfirst, hsame⟩ := Option.map_eq_some_iff.mp hentry.symm
      rw [← hsame, hchange first hfirst] at there
      obtain ⟨g, hg, hpayload'⟩ := Option.map_eq_some_iff.mp there
      rw [← Filter.overrideConfig?_eq hsettings' override] at hpayload'
      exact ⟨first, g, hfirst, hg, FilterOverride.enabled.inj hpayload'⟩
    · refine absurd (p.message_without several ?_ role).symm differs
      rw [kind]
      decide
  · rintro ⟨http, first, g, hfirst, hg, hsame⟩
    rw [hfirst, Option.map_some] at hentry
    obtain ⟨w, hw, hoverrides⟩ := Option.map_eq_some_iff.mp hentry
    have hname : w.name = p.cluster.messageName := hkeyed _ (OrderedMap.mem_of_find?_eq_some hw)
    refine .entry http sent hsplit (OrderedMap.mem_values_of_find?_eq_some hw) hname hsettings
      hpayload ?_
    rw [hoverrides, hchange first hfirst, hg, Option.map_some, hsame, hown]

end ClusterFilter

namespace Build

variable {cache : Cache}

/-- **When the filters of a split are heard.** A filter of one of several clusters of a route of a
built graph has a place in connection managers, or it sets the host header.  Its effect is carried
if it has such a place and is `Heard`, which is so where the cluster is the first one of its
name. -/
theorem build_split_carries_iff [Pattern.Engine] {h : Host} (hh : (Graph.build cache).HasHost h)
    {r : Route}
    (hr : r ∈ h.virtualHost.routes.values) (several : 2 ≤ r.clusters.length) {role : ListenerRole}
    {action : RouteAction} (sent : (r.message role).action = .route action) (p : ClusterFilter r) :
    (p.filter.kind.isHttpFilter ∨ p.filter.kind = .hostHeader) ∧
    (p.Carried role ↔ p.filter.kind.isHttpFilter ∧ p.Heard) ∧
    (p.filter.kind.isHttpFilter →
      (∀ d ∈ p.before, d.messageName ≠ p.cluster.messageName) → p.Carried role) := by
  have attaches := (attached_of_hasHost hh hr).attaches
  have hcarried := p.carried_iff attaches several sent
  refine ⟨?_, hcarried, fun http first => hcarried.mpr ⟨http, p.heard_of_first http first⟩⟩
  obtain ⟨s, hs⟩ := attaches.cluster _ p.mem_filters
  have hattach := (FilterSettings.checked_of_parse hs).1
  revert hattach
  cases p.filter.kind <;> decide

/-! ### A canary -/

/-- A filter that bridges gRPC-Web. -/
def canaryBridge : Filter := ⟨"grpc-web", .grpcWeb, ""⟩

/-- A filter that compresses responses. -/
def canaryGzip : Filter := ⟨"gzip", .compression, ""⟩

/-- A filter that sets the host header. -/
def legacyHost : Filter := ⟨"legacy-host", .hostHeader, "host: legacy.test"⟩

/-- A service of the canary. -/
def canaryService (name : String) (weight : Int) (filter : String) : ServiceSpec :=
  ⟨name, 80, weight, none, none, none, none, none, [⟨filter, none⟩]⟩

/-- Most requests go to a service behind a bridge.  A tenth of them goes to the same service, to try
compression out, and another tenth to an old service that is known under another name. -/
def canaryRoute : RouteSpec :=
  { apiRoute with
    services := [canaryService "shop" 80 "grpc-web", canaryService "shop" 10 "gzip",
      canaryService "legacy" 10 "legacy-host"] }

/-- A root with the route. -/
def canaryRoot : GatewayHost where
  metadata := { name := some "shop", space := some "default" }
  virtualHost := some ⟨"shop.test", none, []⟩
  routes := [canaryRoute]
  tcpProxy := none

/-- A cache with the root, the services and the filters. -/
def canaryCache : Cache where
  gatewayHosts := .ofList [(⟨"default", "shop"⟩, canaryRoot)]
  services := .ofList (["shop", "legacy"].map fun name => (⟨"default", name⟩,
    ⟨{ name := some name, space := some "default" }, none, none, [⟨none, 80⟩]⟩))
  routeFilters := .ofList ([canaryBridge, canaryGzip, legacyHost].map fun f => (⟨"default", f.name⟩,
    ⟨{ name := some f.name, space := some "default" }, f.kind, f.config⟩))

/-- The cluster of `canaryRoute` for the service `name`, with its one filter. -/
def canaryCluster (name : String) (weight : Nat) (filter : Filter) : Cluster where
  backend := ⟨{ service := ⟨"default", name⟩, portName := none, portNumber := 80 }, .http .plaintext⟩
  weight
  sni := none
  filters := [filter]

/-- The clusters of the route. -/
def canaryClusters : List Cluster :=
  [canaryCluster "shop" 80 canaryBridge, canaryCluster "shop" 10 canaryGzip,
    canaryCluster "legacy" 10 legacyHost]

theorem legacyHost_settings : legacyHost.settings .cluster = .ok (.hostHeader "legacy.test") := by
  decide +kernel

/-- The references of the services mean the filters `canaryBridge`, `canaryGzip` and
`legacyHost`. -/
theorem canary_filters :
    resolveFilters canaryCache .cluster "default" [⟨"grpc-web", none⟩] = ([canaryBridge], []) ∧
    resolveFilters canaryCache .cluster "default" [⟨"gzip", none⟩] = ([canaryGzip], []) ∧
    resolveFilters canaryCache .cluster "default" [⟨"legacy-host", none⟩] = ([legacyHost], []) := by
  have hmeans : ∀ {f : Filter} {s : FilterSettings},
      canaryCache.filterObject? .cluster ⟨"default", f.name⟩
        = some ⟨{ name := some f.name, space := some "default" }, f.kind, f.config⟩ →
      f.settings .cluster = .ok s →
      resolveFilters canaryCache .cluster "default" [⟨f.name, none⟩] = ([f], []) := by
    intro f s hobject hsettings
    have hok := @resolveFilter_eq_ok canaryCache .cluster "default" ⟨f.name, none⟩ _ s hobject hsettings
    unfold resolveFilters
    simp only [List.map_cons, List.map_nil, hok]
    rfl
  exact ⟨@hmeans canaryBridge _ rfl clash_parse_cluster.1, @hmeans canaryGzip _ rfl clash_parse_cluster.2,
    @hmeans legacyHost _ rfl legacyHost_settings⟩

theorem canary_walkSteps [Pattern.Engine] (domain : String) :
    walkSteps canaryCache ⟨"default", "shop"⟩ canaryRoot domain .off =
      [.serve (hostRef ⟨"default", "shop"⟩) canaryRoute canaryRoute.conditions,
        .accept ⟨"default", "shop"⟩] :=
  routeSteps_of_single rfl rfl

/-- The graph of `canaryCache` has a host with the route, whose clusters are `canaryClusters`. -/
theorem canary_hosts [Pattern.Engine] : ∃ h r,
    (Graph.build canaryCache).HasHost h ∧ r ∈ h.virtualHost.routes.values ∧
    r.clusters = canaryClusters ∧ (r.message .plain).action = .route r.action := by
  have accepted : Accepted canaryCache ⟨"default", "shop"⟩ canaryRoot ⟨"shop.test", none, []⟩ .off :=
    ⟨rfl, rfl, rfl, rfl⟩
  have hplain : ∃ h r, (Graph.build canaryCache).plainHosts = [h] ∧ h.routes.values = [r] ∧
      r.clusters = canaryClusters ∧ r.httpsUpgrade = false := by
    -- the single step of the walk is run, with the filters that its references mean
    rw [plainHosts_build, buildAll_of_single rfl accepted]
    simp only [canary_walkSteps, Building.takeAll, List.foldl_cons, List.foldl_nil, Building.take,
      Building.serve, Building.look, buildRoute, buildClusters, buildCluster, canaryRoute, canaryService,
      hostRef, canary_filters]
    exact ⟨_, _, rfl, rfl, rfl, rfl⟩
  obtain ⟨h, r, hhosts, hroutes, hclusters, hupgrade⟩ := hplain
  have hh : h ∈ (Graph.build canaryCache).plainHosts := by rw [hhosts]; exact List.mem_singleton_self h
  have hr : r ∈ h.routes.values := by rw [hroutes]; exact List.mem_singleton_self r
  exact ⟨_, r, Graph.mem_plainHosts.mp hh, hr, hclusters, if_neg (by simp [hupgrade])⟩

section Canary

variable {r : Route} (hclusters : r.clusters = canaryClusters)

/-- The filter of the first cluster, `canaryBridge`. -/
def firstFilter : ClusterFilter r where
  before := []
  cluster := canaryCluster "shop" 80 canaryBridge
  after := [canaryCluster "shop" 10 canaryGzip, canaryCluster "legacy" 10 legacyHost]
  clusters_eq := hclusters
  front := []
  filter := canaryBridge
  back := []
  filters_eq := rfl
  alone := nofun

/-- The filter that is tried out, `canaryGzip`, on a cluster of the same name as the first one. -/
def triedFilter : ClusterFilter r where
  before := [canaryCluster "shop" 80 canaryBridge]
  cluster := canaryCluster "shop" 10 canaryGzip
  after := [canaryCluster "legacy" 10 legacyHost]
  clusters_eq := hclusters
  front := []
  filter := canaryGzip
  back := []
  filters_eq := rfl
  alone := nofun

/-- The filter of the old service, `legacyHost`, which sets the host header. -/
def legacyFilter : ClusterFilter r where
  before := [canaryCluster "shop" 80 canaryBridge, canaryCluster "shop" 10 canaryGzip]
  cluster := canaryCluster "legacy" 10 legacyHost
  after := []
  clusters_eq := hclusters
  front := []
  filter := legacyHost
  back := []
  filters_eq := rfl
  alone := nofun

end Canary

/-- The bridge takes effect on the requests that go to the first cluster. -/
theorem canary_bridge_carried : ∃ h r, (Graph.build canaryCache).HasHost h ∧
    r ∈ h.virtualHost.routes.values ∧ 2 ≤ r.clusters.length ∧
    (r.message .plain).action = .route r.action ∧
    ∃ p : ClusterFilter r, p.filter = canaryBridge ∧ p.Carried .plain := by
  obtain ⟨h, r, hh, hr, hclusters, sent⟩ := canary_hosts
  have several : 2 ≤ r.clusters.length := by rw [hclusters]; decide
  obtain ⟨-, -, hfirst⟩ := build_split_carries_iff hh hr several sent (firstFilter hclusters)
  refine ⟨h, r, hh, hr, several, sent, _, rfl, hfirst rfl ?_⟩
  intro d hd
  cases hd

/-- Compression is not tried out, as the entry for the service is that of the cluster with the
bridge, and the old service does not get its host header: neither `triedFilter` nor `legacyFilter`
is carried. -/
theorem canary_filters_lost : ∃ h r, (Graph.build canaryCache).HasHost h ∧
    r ∈ h.virtualHost.routes.values ∧ 2 ≤ r.clusters.length ∧
    (r.message .plain).action = .route r.action ∧
    (∃ p : ClusterFilter r, p.filter = canaryGzip ∧ ¬ p.Carried .plain) ∧
    ∃ p : ClusterFilter r, p.filter = legacyHost ∧ ¬ p.Carried .plain := by
  obtain ⟨h, r, hh, hr, hclusters, sent⟩ := canary_hosts
  have several : 2 ≤ r.clusters.length := by rw [hclusters]; decide
  have attaches := (attached_of_hasHost hh hr).attaches
  refine ⟨h, r, hh, hr, several, sent, ⟨triedFilter hclusters, rfl, ?_⟩,
    ⟨legacyFilter hclusters, rfl, ?_⟩⟩
  · rw [ClusterFilter.carried_iff _ attaches several sent]
    have hname : (canaryCluster "shop" 80 canaryBridge).messageName
        = (canaryCluster "shop" 10 canaryGzip).messageName := rfl
    have hother : changing? (canaryCluster "shop" 80 canaryBridge).filters canaryGzip.name = none := rfl
    rintro ⟨-, hheard⟩
    -- behind a cluster of the same name, what is heard would have to be said by the first one
    obtain ⟨g, hg, -⟩ := ((triedFilter hclusters).heard_iff_of_twin rfl hname).mp hheard
    exact absurd (hg.symm.trans hother) (Option.some_ne_none g)
  -- a filter that sets the host header has no place in connection managers
  · rw [ClusterFilter.carried_iff _ attaches several sent]
    rintro ⟨⟨⟩, -⟩

end Build

end GatewayCompiler
