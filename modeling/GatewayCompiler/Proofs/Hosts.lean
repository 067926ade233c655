import GatewayCompiler.Proofs.Building
import GatewayCompiler.Proofs.Listeners

/-!
# What holds of all hosts of a build

A property of hosts that every change of a host keeps holds of all hosts in the end.  What a graph
is visited at comes from a host of the build.

## Main definitions

* `VirtualHost.AllClusters` — a property of all clusters of a host.
* `Building.AllHosts` — a property of all hosts in plain text, and one of all hosts over TLS.

## Main statements

* `nodup_map_name_addFilters` — the filters of a host have different names.
* `Building.AllHosts.onPlainHost`, `Building.AllHosts.onSecureHost` — a change of a host.
* `Graph.of_cluster_mem_visits` — the clusters that a graph is visited at.
-/

namespace GatewayCompiler

/-! ### Filters of hosts -/

section Filters

variable {filters : List Filter} {f g : Filter}

theorem mem_addFilter (h : g ∈ addFilter f filters) : g = f ∨ g ∈ filters := by
  induction filters with
  | nil => exact .inl (List.mem_singleton.mp h)
  | cons old rest ih =>
    unfold addFilter at h
    split at h
    · rcases List.mem_cons.mp h with h | h
      · exact .inl h
      · exact .inr (List.mem_cons_of_mem _ h)
    · rcases List.mem_cons.mp h with rfl | h
      · exact .inr List.mem_cons_self
      · exact (ih h).imp_right (List.mem_cons_of_mem _)

/-- A further filter takes the place of the one of its name, or comes last.  So the names stay in
their order. -/
theorem map_name_addFilter (f : Filter) (filters : List Filter) :
    (addFilter f filters).map Filter.name =
      if f.name ∈ filters.map Filter.name then filters.map Filter.name
      else filters.map Filter.name ++ [f.name] := by
  -- over the filters: a namesake is replaced where it stands, so the name keeps its place
  induction filters with
  | nil => simp [addFilter]
  | cons old rest ih =>
    unfold addFilter
    by_cases hname : old.name = f.name
    · simp [hname]
    · have hmem : f.name ∈ (old :: rest).map Filter.name ↔ f.name ∈ rest.map Filter.name := by
        rw [List.map_cons, List.mem_cons, or_iff_right (Ne.symm hname)]
      rw [if_neg hname, List.map_cons, ih]
      simp only [hmem]
      split
      · rfl
      · rfl

/-- The names of filters still differ after `addFilter`. -/
theorem nodup_map_name_addFilter (h : (filters.map Filter.name).Nodup) (f : Filter) :
    ((addFilter f filters).map Filter.name).Nodup := by
  rw [map_name_addFilter]
  split
  · exact h
  · next hnot =>
    rw [List.nodup_append]
    refine ⟨h, List.pairwise_singleton _ _, ?_⟩
    rintro name hmem _ hlast rfl
    exact hnot (List.mem_singleton.mp hlast ▸ hmem)

/-- A host then has filters that it has had before and `further` ones. -/
theorem mem_addFilters {h : VirtualHost} {further : List Filter}
    (hg : g ∈ (h.addFilters further).filters) : g ∈ h.filters ∨ g ∈ further := by
  refine List.foldlRecOn (motive := fun filters : List Filter =>
    ∀ g ∈ filters, g ∈ h.filters ∨ g ∈ further) _ _ (fun _ => .inl) ?_ g hg
  intro filters hfilters f hf g hg
  rcases mem_addFilter hg with rfl | hg
  · exact .inr hf
  · exact hfilters g hg

/-- The names of the filters of a host still differ after `further` filters. -/
theorem nodup_map_name_addFilters {h : VirtualHost} (hh : (h.filters.map Filter.name).Nodup)
    (further : List Filter) : ((h.addFilters further).filters.map Filter.name).Nodup :=
  List.foldlRecOn (motive := fun filters : List Filter => (filters.map Filter.name).Nodup) _ _ hh
    fun _ hfilters f _ => nodup_map_name_addFilter hfilters f

end Filters

/-! ### Clusters of hosts -/

/-- `h.AllClusters P` says that all clusters of the host `h` have the property `P`, those that
requests go to and those that connections go to. -/
structure VirtualHost.AllClusters (P : Cluster → Prop) (h : VirtualHost) : Prop where
  /-- The clusters of routes. -/
  routes : ∀ key route, h.routes.find? key = some route → ∀ c ∈ route.clusters, P c
  /-- The clusters of a forwarding. -/
  tcpProxy : ∀ clusters, h.tcpProxy = some clusters → ∀ c ∈ clusters, P c

namespace VirtualHost.AllClusters

variable {P : Cluster → Prop} {h : VirtualHost}

/-- A new host has no clusters. -/
theorem new (name : String) : VirtualHost.AllClusters P { name } where
  routes := by
    rintro key route ⟨⟩
  tcpProxy := by
    rintro clusters ⟨⟩

theorem mono {Q : Cluster → Prop} (hall : h.AllClusters P) (hall' : ∀ c, P c → Q c) :
    h.AllClusters Q where
  routes := fun key route hfind c hc => hall' c (hall.routes key route hfind c hc)
  tcpProxy := fun clusters hsome c hc => hall' c (hall.tcpProxy clusters hsome c hc)

theorem addRoute (hall : h.AllClusters P) {route : Route} (hroute : ∀ c ∈ route.clusters, P c) :
    (h.addRoute route).AllClusters P where
  routes := OrderedMap.forall_find?_insert hall.routes hroute
  tcpProxy := hall.tcpProxy

theorem addFilters (hall : h.AllClusters P) (filters : List Filter) :
    (h.addFilters filters).AllClusters P := ⟨hall.routes, hall.tcpProxy⟩

theorem forwardTo (hall : h.AllClusters P) {clusters : List Cluster} (hclusters : ∀ c ∈ clusters, P c) :
    VirtualHost.AllClusters P { h with tcpProxy := some clusters } where
  routes := hall.routes
  tcpProxy := by
    rintro _ ⟨⟩
    exact hclusters

end VirtualHost.AllClusters

namespace Build.Building

/-- `b.AllHosts P Q` says that all hosts in plain text of the build `b` have the property `P`, and
all hosts over TLS have `Q` with their names. -/
structure AllHosts (P : VirtualHost → Prop) (Q : String → SecureHost → Prop) (b : Building) :
    Prop where
  /-- The hosts in plain text. -/
  plain : ∀ name h, b.plain.find? name = some h → P h
  /-- The hosts over TLS. -/
  secure : ∀ name h, b.secure.find? name = some h → Q name h

namespace AllHosts

variable {P : VirtualHost → Prop} {Q : String → SecureHost → Prop} {b b' : Building}

/-- At first there are no hosts. -/
theorem empty : AllHosts P Q {} where
  plain := by
    rintro name h ⟨⟩
  secure := by
    rintro name h ⟨⟩

/-- Only the hosts matter, not what else is recorded in a build. -/
theorem congr (hall : b.AllHosts P Q) (hplain : b'.plain = b.plain)
    (hsecure : b'.secure = b.secure) : b'.AllHosts P Q where
  plain := by
    rw [hplain]
    exact hall.plain
  secure := by
    rw [hsecure]
    exact hall.secure

/-- A host in plain text is changed, which is made if it is not there; `hnew` is for that case. -/
theorem onPlainHost (hall : b.AllHosts P Q) {name : String} {change : VirtualHost → VirtualHost}
    (hnew : P { name }) (hchange : ∀ h, P h → P (change h)) :
    (b.onPlainHost name change).AllHosts P Q where
  plain := OrderedMap.forall_find?_change (P := fun _ h => P h) hall.plain hnew hchange
  secure := hall.secure

/-- A host over TLS is changed, which is made if it is not there. -/
theorem onSecureHost (hall : b.AllHosts P Q) {name : String} {change : SecureHost → SecureHost}
    (hnew : Q name { host := { name } }) (hchange : ∀ h, Q name h → Q name (change h)) :
    (b.onSecureHost name change).AllHosts P Q where
  plain := hall.plain
  secure := OrderedMap.forall_find?_change hall.secure hnew hchange

end AllHosts

end Build.Building

/-! ### Visits -/

namespace Visit

theorem cluster_mem_ofRoute {c : Cluster} {route : Route} :
    .cluster c ∈ ofRoute route ↔ c ∈ route.clusters := by
  simp [ofRoute]

theorem cluster_mem_ofTcpProxy {c : Cluster} {proxy : Option (List Cluster)} :
    .cluster c ∈ ofTcpProxy proxy ↔ ∃ clusters, proxy = some clusters ∧ c ∈ clusters := by
  cases proxy with
  | none => simp [ofTcpProxy]
  | some clusters => simp [ofTcpProxy]

/-- The clusters of a host are those of its routes and its forwarding. -/
theorem cluster_mem_allOfHost {c : Cluster} {l : Listener} {h : Host} :
    .cluster c ∈ allOfHost l h ↔
      (∃ route ∈ h.virtualHost.routes.values, c ∈ route.clusters) ∨
        ∃ clusters, h.virtualHost.tcpProxy = some clusters ∧ c ∈ clusters := by
  unfold allOfHost
  rw [List.mem_cons, List.mem_append, List.mem_flatMap, cluster_mem_ofTcpProxy]
  simp only [cluster_mem_ofRoute]
  constructor
  · rintro (hself | hother)
    · cases h with
      | plain host => cases hself
      | secure host => cases hself
    · exact hother
  · exact .inr

/-- The routes of a host. -/
theorem route_mem_allOfHost {route : Route} {l : Listener} {h : Host} :
    .route route ∈ allOfHost l h ↔ route ∈ h.virtualHost.routes.values := by
  unfold allOfHost
  rw [List.mem_cons, List.mem_append, List.mem_flatMap]
  constructor
  -- the visit of a route is not the host's own, nor that of a cluster
  · rintro (hself | ⟨other, hmem, hroute⟩ | htcp)
    · cases h with
      | plain host => cases hself
      | secure host => cases hself
    · rcases List.mem_cons.mp hroute with heq | hcluster
      · cases heq
        exact hmem
      · simp at hcluster
    · cases hproxy : h.virtualHost.tcpProxy with
      | none => simp [hproxy, ofTcpProxy] at htcp
      | some clusters => simp [hproxy, ofTcpProxy] at htcp
  · exact fun hmem => .inr (.inl ⟨route, hmem, List.mem_cons_self⟩)

end Visit

/-- A property of all clusters of all hosts holds of every cluster that the graph is visited at. -/
theorem Graph.of_cluster_mem_visits {listeners : List Listener} {statuses : Ledger Status}
    {P : Cluster → Prop}
    (hall : ∀ l ∈ listeners, ∀ name h, l.hosts.find? name = some h → h.virtualHost.AllClusters P)
    {c : Cluster} (hc : .cluster c ∈ (Graph.ofListeners listeners statuses).visits) : P c := by
  obtain ⟨pruned, hpruned, hc⟩ := List.mem_flatMap.mp hc
  obtain ⟨l, hl, rfl⟩ := List.mem_map.mp (List.mem_filter.mp hpruned).1
  rcases List.mem_cons.mp hc with hc | hc
  · cases hc
  obtain ⟨h, hh, hc⟩ := List.mem_flatMap.mp hc
  obtain ⟨⟨name, h⟩, hmem, rfl⟩ := List.mem_map.mp hh
  have hclusters := hall l hl name h (OrderedMap.find?_eq_some_of_mem (List.mem_filter.mp hmem).1)
  rcases Visit.cluster_mem_allOfHost.mp hc with ⟨route, hroute, hc⟩ | ⟨clusters, htcp, hc⟩
  · obtain ⟨⟨key, route⟩, hkey, rfl⟩ := List.mem_map.mp hroute
    exact hclusters.routes key route (OrderedMap.find?_eq_some_of_mem hkey) c hc
  · exact hclusters.tcpProxy clusters htcp c hc

end GatewayCompiler
