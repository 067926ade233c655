import GatewayCompiler.Proofs.FilterChains
import GatewayCompiler.Proofs.Hosts
import GatewayCompiler.Render.Snapshot
import Mathlib.Data.List.Nodup

/-!
# Snapshots are closed under reference

Messages name each other: routes and forwardings name clusters, TLS settings name secrets, connection
managers name route configurations, and hosts, routes and clusters name filters.  The names are made
where the messages are rendered, and the messages that are named are collected by a walk over the
graph.  Every name leads to a message, and to one only.

## Main definitions

* `Snapshot.clusterReferences`, `Snapshot.secretReferences`, `Snapshot.managers` — names in messages.
* `Graph.HasCluster` — the clusters of a graph, found without a walk.
* `Rendered` — a host of the graph is rendered, together with the connection manager that serves it.
* `Closed` — what holds of the names in a snapshot.

## Main statements

* `mem_firstByName_names` — the names of collected messages.
* `rendered_of_mem_virtualHosts` — where the hosts of a snapshot come from.
* `snapshot_closed` — a snapshot is closed under reference.
-/

namespace GatewayCompiler

open Proxy

/-! ### Collected messages -/

/-- `Increasing names` says that every name is smaller than the later ones. -/
def Increasing (names : List String) : Prop := names.Pairwise fun a b => compare a b = .lt

/-- Names that increase differ. -/
theorem Increasing.nodup {names : List String} (h : Increasing names) : names.Nodup := by
  refine h.imp ?_
  rintro a _ hlt rfl
  have heq : compare a a = .eq := Std.ReflCmp.compare_self
  rw [heq] at hlt
  cases hlt

/-- Names that increase come once, so that a reference has exactly one message. -/
theorem Increasing.count {names : List String} (h : Increasing names) {name : String}
    (hmem : name ∈ names) : names.count name = 1 :=
  List.count_eq_one_of_mem h.nodup hmem

section Collected

variable {μ : Type} {name : μ → String} {messages : List (String × μ)}

/-- `collect messages` are the messages by name, of which the first of a name counts. -/
def collect (messages : List (String × μ)) : OrderedMap String μ :=
  messages.foldl (fun m p => m.insertNew p.1 p.2) .empty

theorem contains_collect {key : String} :
    (collect messages).contains key ↔ key ∈ messages.map Prod.fst := by
  -- inserting an entry makes its key known, whether or not it is taken
  have hinsert : ∀ (m : OrderedMap String μ) (p : String × μ),
      (m.insertNew p.1 p.2).contains key ↔ key = p.1 ∨ m.contains key := by
    intro m p
    unfold OrderedMap.insertNew
    split
    · next hthere =>
      constructor
      · exact .inr
      · rintro (rfl | h)
        · exact hthere
        · exact h
    · exact OrderedMap.contains_insert
  have hfold : ∀ m : OrderedMap String μ,
      (messages.foldl (fun m p => m.insertNew p.1 p.2) m).contains key ↔
        m.contains key ∨ key ∈ messages.map Prod.fst := by
    induction messages with
    | nil => simp
    | cons p rest ih =>
      intro m
      rw [List.foldl_cons, ih, hinsert, List.map_cons, List.mem_cons, or_comm (a := key = p.1), or_assoc]
  rw [collect, hfold]
  simp [OrderedMap.contains]

/-- A message that `firstByName` collects was given. -/
theorem mem_firstByName {m : μ} (h : m ∈ firstByName messages) : ∃ key, (key, m) ∈ messages := by
  have hall : ∀ p ∈ (collect messages).toList, p ∈ messages := by
    refine List.foldlRecOn (motive := fun c : OrderedMap String μ => ∀ p ∈ c.toList, p ∈ messages)
      _ _ (by rintro p ⟨⟩) ?_
    intro c hc q hq p hp
    unfold OrderedMap.insertNew at hp
    split at hp
    · exact hc p hp
    · rcases OrderedMap.mem_insertEntry hp with rfl | hp
      · exact hq
      · exact hc p hp
  obtain ⟨⟨key, m⟩, hmem, rfl⟩ := List.mem_map.mp h
  exact ⟨key, hall _ hmem⟩

variable (hname : ∀ p ∈ messages, name p.2 = p.1)
include hname

theorem firstByName_names : (firstByName messages).map name = (collect messages).keys := by
  refine OrderedMap.KeyedBy.map_values ?_
  refine List.foldlRecOn (motive := fun c : OrderedMap String μ => c.KeyedBy name) _ _
    OrderedMap.KeyedBy.empty ?_
  intro c hc p hp
  exact hc.insertNew (hname p hp)

/-- The names of the collected messages are those of the given ones. -/
theorem mem_firstByName_names {key : String} :
    key ∈ (firstByName messages).map name ↔ key ∈ messages.map Prod.fst := by
  rw [firstByName_names hname, ← OrderedMap.contains_iff_mem_keys, contains_collect]

/-- The names of the collected messages increase, as those of an `OrderedMap` do. -/
theorem firstByName_increasing : Increasing ((firstByName messages).map name) := by
  rw [firstByName_names hname]
  exact (collect messages).keys_increasing

end Collected

/-! ### Names in snapshots -/

namespace Proxy

/-- `c.names` are the clusters that connections may go to. -/
def TcpClusters.names : TcpClusters → List String
  | .cluster name => [name]
  | .weighted clusters => clusters.map Prod.fst

/-- `f.clusterNames` are the clusters that whole connections may go to. -/
def NetworkFilter.clusterNames : NetworkFilter → List String
  | .connectionManager _ => []
  | .tcpProxy _ clusters => clusters.names

/-- `f.manager?` is the connection manager, where there is one. -/
def NetworkFilter.manager? : NetworkFilter → Option ConnectionManager
  | .connectionManager manager => some manager
  | .tcpProxy .. => none

/-- `socket.certificates` are the secrets with the own certificates. -/
def TransportSocket.certificates : TransportSocket → List String
  | .client _ context | .server context => context.certificates

namespace Snapshot

/-- `s.virtualHosts` are all hosts of the snapshot, in all route configurations. -/
def virtualHosts (s : Snapshot) : List VirtualHostMessage :=
  s.routeConfigurations.flatMap RouteConfiguration.virtualHosts

/-- `s.filterChains` are all chains of listeners. -/
def filterChains (s : Snapshot) : List FilterChain := s.listeners.flatMap ListenerMessage.filterChains

/-- `s.clusterReferences` are the names of clusters that routes, splits and forwardings use. -/
def clusterReferences (s : Snapshot) : List String :=
  (s.virtualHosts.flatMap VirtualHostMessage.routes).flatMap (fun r => r.action.clusterNames)
    ++ (s.filterChains.flatMap FilterChain.filters).flatMap NetworkFilter.clusterNames

/-- `s.secretReferences` are the names of secrets that TLS settings use, on both sides. -/
def secretReferences (s : Snapshot) : List String :=
  (s.filterChains.filterMap FilterChain.transportSocket).flatMap TransportSocket.certificates
    ++ (s.clusters.filterMap ClusterMessage.transportSocket).flatMap TransportSocket.certificates

/-- `s.managers` are all connection managers, those in the chains of listeners. -/
def managers (s : Snapshot) : List ConnectionManager :=
  (s.filterChains.flatMap FilterChain.filters).filterMap NetworkFilter.manager?

end Snapshot

end Proxy

/-! ### Places of a graph -/

/-- `g.HasCluster c` says that `c` is a cluster of a graph: requests of a route go there, or
connections of a host. -/
def Graph.HasCluster (g : Graph) (c : Cluster) : Prop :=
  ∃ l ∈ g.listeners, ∃ h ∈ l.hosts.values,
    (∃ route ∈ h.virtualHost.routes.values, c ∈ route.clusters) ∨
      ∃ clusters, h.virtualHost.tcpProxy = some clusters ∧ c ∈ clusters

/-- `g.HasHost h` says that `h` is a host of a graph. -/
def Graph.HasHost (g : Graph) (h : Host) : Prop := ∃ l ∈ g.listeners, h ∈ l.hosts.values

section Places

variable {g : Graph}

/-- The walk comes to the clusters of the graph, and to no others. -/
theorem Graph.cluster_mem_visits {c : Cluster} : .cluster c ∈ g.visits ↔ g.HasCluster c := by
  unfold Graph.visits Graph.HasCluster Visit.ofListener
  simp only [List.mem_flatMap, List.mem_cons, reduceCtorEq, false_or, Visit.cluster_mem_allOfHost]

/-- A host is visited as such only: nothing of another host is taken for it. -/
theorem Visit.host_mem_allOfHost {l l' : Listener} {h h' : Host} :
    .ofHost l h ∈ allOfHost l' h' ↔ ofHost l h = ofHost l' h' := by
  have hroutes : Visit.ofHost l h ∉ h'.virtualHost.routes.values.flatMap ofRoute := by
    intro hmem
    obtain ⟨route, -, hmem⟩ := List.mem_flatMap.mp hmem
    cases h <;> simp [ofRoute, ofHost] at hmem
  have htcp : Visit.ofHost l h ∉ ofTcpProxy h'.virtualHost.tcpProxy := by
    intro hmem
    cases hproxy : h'.virtualHost.tcpProxy with
    | none => simp [hproxy, ofTcpProxy] at hmem
    | some clusters => cases h <;> simp [hproxy, ofTcpProxy, ofHost] at hmem
  unfold allOfHost
  rw [List.mem_cons, List.mem_append]
  simp [hroutes, htcp]

/-- The walk comes to the hosts of the graph. -/
theorem Graph.host_mem_visits {h : Host} :
    (∃ l, Visit.ofHost l h ∈ g.visits) ↔ g.HasHost h := by
  unfold Graph.visits Graph.HasHost Visit.ofListener
  simp only [List.mem_flatMap, List.mem_cons]
  constructor
  · rintro ⟨l, l', hl', hself | ⟨h', hh', hmem⟩⟩
    · cases h <;> cases hself
    · rw [Visit.host_mem_allOfHost] at hmem
      cases h <;> cases h' <;> cases hmem <;> exact ⟨_, hl', hh'⟩
  · rintro ⟨l, hl, hh⟩
    exact ⟨l, l, hl, .inr ⟨h, hh, Visit.host_mem_allOfHost.mpr rfl⟩⟩

theorem Graph.mem_plainHosts {h : VirtualHost} :
    h ∈ g.visits.filterMap Visit.plainHost? ↔ g.HasHost (.plain h) := by
  rw [← Graph.host_mem_visits, List.mem_filterMap]
  constructor
  · rintro ⟨visit, hvisit, hsome⟩
    cases visit <;> cases hsome
    exact ⟨_, hvisit⟩
  · rintro ⟨l, hl⟩
    exact ⟨_, hl, rfl⟩

theorem Graph.mem_servedHosts {config : ProxyConfig} {h : SecureHost} {chain : FilterChain} :
    (h, chain) ∈ g.visits.filterMap (Visit.servedHost? config) ↔
      g.HasHost (.secure h) ∧ h.chain? config = some chain := by
  rw [← Graph.host_mem_visits, List.mem_filterMap]
  constructor
  · rintro ⟨visit, hvisit, hsome⟩
    cases visit with
    | secureHost l host =>
      obtain ⟨chain', hchain, heq⟩ := Option.map_eq_some_iff.mp hsome
      cases heq
      exact ⟨⟨l, hvisit⟩, hchain⟩
    | _ => cases hsome
  · rintro ⟨⟨l, hl⟩, hchain⟩
    exact ⟨_, hl, by simp [Visit.servedHost?, Visit.ofHost, hchain]⟩

/-- The secrets that are met: those of hosts that are served, and those shown to clusters. -/
theorem Graph.mem_secrets {config : ProxyConfig} {k : KeyMaterial} :
    k ∈ g.visits.filterMap (Visit.secret? config) ↔
      (∃ h chain, g.HasHost (.secure h) ∧ h.chain? config = some chain ∧ h.certificate = some k) ∨
        ∃ c, g.HasCluster c ∧ c.clientCertificate = some k := by
  rw [List.mem_filterMap]
  constructor
  · rintro ⟨visit, hvisit, hsome⟩
    cases visit with
    -- the secrets of a secure host count only if it has a filter chain
    | secureHost l h =>
      simp only [Visit.secret?] at hsome
      split at hsome
      · next hchain =>
        obtain ⟨chain, hchain⟩ := Option.isSome_iff_exists.mp hchain
        exact .inl ⟨h, chain, Graph.host_mem_visits.mp ⟨l, hvisit⟩, hchain, hsome⟩
      · cases hsome
    | cluster c => exact .inr ⟨c, Graph.cluster_mem_visits.mp hvisit, hsome⟩
    | _ => cases hsome
  · rintro (⟨h, chain, hhost, hchain, hsome⟩ | ⟨c, hc, hsome⟩)
    · obtain ⟨l, hl⟩ := Graph.host_mem_visits.mpr hhost
      exact ⟨_, hl, by simp [Visit.secret?, Visit.ofHost, hchain, hsome]⟩
    · exact ⟨_, Graph.cluster_mem_visits.mpr hc, hsome⟩

end Places

/-! ### Chains -/

/-- Connections go to given clusters only. -/
theorem tcpClusters_names {clusters : List Cluster} {name : String}
    (h : name ∈ (tcpClusters clusters).names) : ∃ c ∈ clusters, c.messageName = name := by
  unfold tcpClusters at h
  split at h
  · next only => exact ⟨only, List.mem_singleton_self only, (List.mem_singleton.mp h).symm⟩
  · obtain ⟨⟨name', share⟩, hmem, rfl⟩ := List.mem_map.mp h
    obtain ⟨share', hshare, heq⟩ := List.mem_map.mp (List.mem_mergeSort.mp hmem)
    cases heq
    obtain ⟨c, hc, rfl⟩ := List.mem_map.mp hshare
    exact ⟨c, hc, rfl⟩

/-- `h.Chained config chain` says how the chain of a host over TLS comes about: its connections are
forwarded, or its requests are served, for which it needs a certificate. -/
inductive SecureHost.Chained (config : ProxyConfig) (h : SecureHost) (chain : FilterChain) : Prop
  /-- Connections are forwarded. -/
  | forwards {clusters : List Cluster} (tcp : h.host.tcpProxy = some clusters)
      (filters : chain.filters = [tcpProxyFilter ListenerRole.secure.name clusters])
  /-- Requests are served. -/
  | serves (tcp : h.host.tcpProxy = none)
      (filters : chain.filters = [connectionManager .secure (h.entries config) config])

theorem SecureHost.chained_of_chain? {config : ProxyConfig} {h : SecureHost} {chain : FilterChain}
    (hchain : h.chain? config = some chain) :
    h.Chained config chain ∧
      chain.transportSocket = h.certificate.map fun k => serverSocket k h.minVersion := by
  unfold SecureHost.chain? at hchain
  obtain ⟨filter, hfilter, heq⟩ := Option.bind_eq_some_iff.mp hchain
  cases heq
  refine ⟨?_, rfl⟩
  unfold SecureHost.networkFilter? at hfilter
  -- connections are forwarded before routes are looked at
  split at hfilter
  · next clusters htcp =>
    cases hfilter
    exact .forwards htcp rfl
  · next htcp =>
    split at hfilter
    · cases hfilter
      exact .serves htcp rfl
    · cases hfilter

/-! ### Parts of a snapshot -/

section Parts

variable {config : ProxyConfig} {g : Graph}

/-- `g.plainHosts` are the hosts in plain text, in the order of the walk. -/
def Graph.plainHosts (g : Graph) : List VirtualHost := g.visits.filterMap Visit.plainHost?

/-- `g.servedHosts config` are the hosts over TLS that are served with their chains, in the order of
the walk. -/
def Graph.servedHosts (config : ProxyConfig) (g : Graph) : List (SecureHost × FilterChain) :=
  g.visits.filterMap (Visit.servedHost? config)

/-- `g.routedHosts config` are the hosts over TLS with routes of their own. -/
def Graph.routedHosts (config : ProxyConfig) (g : Graph) : List SecureHost :=
  ((g.servedHosts config).map Prod.fst).filter fun h => h.host.tcpProxy.isNone

theorem mem_listeners {l : ListenerMessage} :
    l ∈ (g.snapshot config).listeners ↔
      (g.plainHosts ≠ [] ∧ l = plainListener config g.plainHosts) ∨
        (g.servedHosts config ≠ [] ∧
          l = secureListener config ((g.servedHosts config).map Prod.snd)) := by
  change l ∈ (plainPart config g.plainHosts).1 ++ (securePart config (g.servedHosts config)).1 ↔ _
  rw [List.mem_append]
  refine or_congr ?_ ?_
  · unfold plainPart
    split
    · next h => simp [List.isEmpty_iff.mp h]
    · next h => simp [List.isEmpty_iff.not.mp h]
  · unfold securePart
    simp only
    split
    · next h => simp [List.isEmpty_iff.mp h]
    · next h => simp [List.isEmpty_iff.not.mp h]

theorem mem_routeConfigurations {c : RouteConfiguration} :
    c ∈ (g.snapshot config).routeConfigurations ↔
      (g.plainHosts ≠ [] ∧ c = routeConfiguration ListenerRole.plain.name
        (g.plainHosts.map (VirtualHost.message .plain))) ∨
      (g.routedHosts config ≠ [] ∧ c = routeConfiguration ListenerRole.secure.name
        ((g.routedHosts config).map fun h => h.host.message .secure)) := by
  change c ∈ (plainPart config g.plainHosts).2 ++ (securePart config (g.servedHosts config)).2 ↔ _
  rw [List.mem_append]
  refine or_congr ?_ ?_
  · unfold plainPart
    split
    · next h => simp [List.isEmpty_iff.mp h]
    · next h => simp [List.isEmpty_iff.not.mp h]
  · unfold securePart Graph.routedHosts
    simp only
    split
    · next h => simp [List.isEmpty_iff.mp h]
    -- the listener may stand without routes, for hosts that only forward
    · next h =>
      simp only
      split
      · next h' => simp [List.isEmpty_iff.mp h']
      · next h' => simp [List.isEmpty_iff.not.mp h']

theorem mem_routedHosts {h : SecureHost} :
    h ∈ g.routedHosts config ↔
      (∃ chain, g.HasHost (.secure h) ∧ h.chain? config = some chain) ∧ h.host.tcpProxy = none := by
  unfold Graph.routedHosts
  rw [List.mem_filter, Option.isNone_iff_eq_none]
  refine and_congr_left fun _ => ?_
  constructor
  · intro hmem
    obtain ⟨⟨h, chain⟩, hserved, rfl⟩ := List.mem_map.mp hmem
    exact ⟨chain, Graph.mem_servedHosts.mp hserved⟩
  · rintro ⟨chain, hserved⟩
    exact List.mem_map.mpr ⟨(h, chain), Graph.mem_servedHosts.mpr hserved, rfl⟩

/-- A chain is the one of plain text or that of a host over TLS. -/
theorem mem_filterChains {chain : FilterChain} :
    chain ∈ (g.snapshot config).filterChains ↔
      (g.plainHosts ≠ [] ∧ chain = {
        serverNames := none
        filters := [connectionManager .plain (plainEntries config g.plainHosts) config]
        transportSocket := none }) ∨
      ∃ h, g.HasHost (.secure h) ∧ h.chain? config = some chain := by
  unfold Snapshot.filterChains
  rw [List.mem_flatMap]
  constructor
  -- the only chain of plain text, or one per secure host that is served
  · rintro ⟨l, hl, hchain⟩
    rcases mem_listeners.mp hl with ⟨hsome, rfl⟩ | ⟨-, rfl⟩
    · exact .inl ⟨hsome, List.mem_singleton.mp hchain⟩
    · obtain ⟨⟨h, chain⟩, hmem, rfl⟩ := List.mem_map.mp hchain
      exact .inr ⟨h, Graph.mem_servedHosts.mp hmem⟩
  · rintro (⟨hsome, rfl⟩ | ⟨h, hserved⟩)
    · exact ⟨_, mem_listeners.mpr (.inl ⟨hsome, rfl⟩), List.mem_singleton_self _⟩
    · have hmem : (h, chain) ∈ g.servedHosts config := Graph.mem_servedHosts.mpr hserved
      exact ⟨_, mem_listeners.mpr (.inr ⟨List.ne_nil_of_mem hmem, rfl⟩),
        List.mem_map.mpr ⟨_, hmem, rfl⟩⟩

/-! ### Clusters and secrets -/

theorem clusters_keyed : ∀ p ∈ (g.visits.filterMap Visit.cluster?).map
    (fun c => (c.messageName, c.message config)), p.2.name = p.1 := by
  intro p hp
  obtain ⟨c, -, rfl⟩ := List.mem_map.mp hp
  rfl

theorem mem_cluster? {c : Cluster} : c ∈ g.visits.filterMap Visit.cluster? ↔ g.HasCluster c := by
  rw [← Graph.cluster_mem_visits, List.mem_filterMap]
  constructor
  · rintro ⟨visit, hvisit, hsome⟩
    cases visit <;> cases hsome
    exact hvisit
  · exact fun h => ⟨_, h, rfl⟩

/-- The names of clusters in a snapshot are those of the clusters of the graph. -/
theorem mem_cluster_names {name : String} :
    name ∈ (g.snapshot config).clusters.map ClusterMessage.name ↔
      ∃ c, g.HasCluster c ∧ c.messageName = name := by
  change name ∈ (firstByName _).map ClusterMessage.name ↔ _
  rw [mem_firstByName_names clusters_keyed, List.map_map, List.mem_map]
  simp only [mem_cluster?, Function.comp_apply]

theorem secrets_keyed : ∀ p ∈ (g.visits.filterMap (Visit.secret? config)).map
    (fun k => (k.messageName, k.message)), p.2.name = p.1 := by
  intro p hp
  obtain ⟨k, -, rfl⟩ := List.mem_map.mp hp
  rfl

/-- The names of secrets in a snapshot are those of the secrets that are met. -/
theorem mem_secret_names {name : String} :
    name ∈ (g.snapshot config).secrets.map SecretMessage.name ↔
      ∃ k ∈ g.visits.filterMap (Visit.secret? config), k.messageName = name := by
  change name ∈ (firstByName _).map SecretMessage.name ↔ _
  rw [mem_firstByName_names secrets_keyed, List.map_map, List.mem_map]
  simp only [Function.comp_apply]

end Parts

/-! ### Hosts and their connection managers -/

/-- `Rendered config g m manager` says that a host of the graph is rendered as the message `m`, and
`manager` serves it: in plain text any one of the listener, over TLS the one in the chain of the
host. -/
inductive Rendered (config : ProxyConfig) (g : Graph) :
    VirtualHostMessage → ConnectionManager → Prop
  /-- A host in plain text. -/
  | plain {h : VirtualHost} {l : ListenerMessage} {chain : FilterChain} {manager : ConnectionManager}
      (host : g.HasHost (.plain h)) (listener : l ∈ (g.snapshot config).listeners)
      (role : l.name = ListenerRole.plain.name) (there : chain ∈ l.filterChains)
      (filter : .connectionManager manager ∈ chain.filters) :
      Rendered config g (h.message .plain) manager
  /-- A host over TLS. -/
  | secure {h : SecureHost} {chain : FilterChain} {manager : ConnectionManager}
      (host : g.HasHost (.secure h)) (there : h.chain? config = some chain)
      (filter : .connectionManager manager ∈ chain.filters) :
      Rendered config g (h.host.message .secure) manager

/-- `ServedBy s host manager` says that a connection manager serves a host: the connection manager
is in the snapshot, the host is in the route configuration that it names, and it holds the filters
that the host changes. -/
structure ServedBy (s : Snapshot) (host : VirtualHostMessage) (manager : ConnectionManager) :
    Prop where
  /-- The connection manager is in the snapshot. -/
  present : manager ∈ s.managers
  /-- The host is in the route configuration that it names. -/
  routed : ∃ c ∈ s.routeConfigurations, c.name = manager.routeConfigName ∧ host ∈ c.virtualHosts
  /-- It holds the filters that are changed. -/
  filters : ∀ name ∈ host.overrideNames, name ≠ authorizationFilterName →
    name ∈ manager.httpFilters.map HttpFilterMessage.name

section Managers

variable {config : ProxyConfig} {g : Graph}

/-- Every host of a snapshot is a host of the graph, and a connection manager serves it. -/
theorem rendered_of_mem_virtualHosts {m : VirtualHostMessage}
    (h : m ∈ (g.snapshot config).virtualHosts) : ∃ manager, Rendered config g m manager := by
  obtain ⟨c, hc, hm⟩ := List.mem_flatMap.mp h
  rcases mem_routeConfigurations.mp hc with ⟨hsome, rfl⟩ | ⟨-, rfl⟩
  · obtain ⟨host, hhost, rfl⟩ := List.mem_map.mp (List.mem_mergeSort.mp hm)
    exact ⟨_, .plain (Graph.mem_plainHosts.mp hhost) (mem_listeners.mpr (.inl ⟨hsome, rfl⟩)) rfl
      (List.mem_singleton_self _) (List.mem_singleton_self _)⟩
  · obtain ⟨host, hhost, rfl⟩ := List.mem_map.mp (List.mem_mergeSort.mp hm)
    obtain ⟨⟨chain, hhost, hchain⟩, htcp⟩ := mem_routedHosts.mp hhost
    -- a host without a forwarding has a chain because its requests are served
    cases (SecureHost.chained_of_chain? hchain).1 with
    | forwards tcp filters =>
      rw [htcp] at tcp
      cases tcp
    | serves tcp filters =>
      exact ⟨_, .secure hhost hchain (filters ▸ List.mem_singleton_self _)⟩

theorem mem_managers_of_chain {chain : FilterChain} {manager : ConnectionManager}
    (hchain : chain ∈ (g.snapshot config).filterChains)
    (hfilter : .connectionManager manager ∈ chain.filters) :
    manager ∈ (g.snapshot config).managers :=
  List.mem_filterMap.mpr ⟨_, List.mem_flatMap.mpr ⟨chain, hchain, hfilter⟩, rfl⟩

/-- The routes of a host change filters that have entries of the host, apart from
`authorizationFilterName`. -/
theorem VirtualHost.routes_overrideNames {role : ListenerRole} {h : VirtualHost} {name : String}
    (hname : name ∈ (h.message role).routes.flatMap RouteMessage.overrideNames)
    (hother : name ≠ authorizationFilterName) : ∃ e ∈ h.routeEntries, e.name = name := by
  obtain ⟨m, hm, hname⟩ := List.mem_flatMap.mp hname
  obtain ⟨route, hroute, rfl⟩ := List.mem_map.mp hm
  obtain ⟨e, he, hname⟩ := Route.overrideNames_entries hname hother
  exact ⟨e, List.mem_flatMap.mpr ⟨route, List.mem_mergeSort.mp hroute, he⟩, hname⟩

/-- A connection manager that serves a host holds the filters that the host changes. -/
theorem Rendered.servedBy {m : VirtualHostMessage} {manager : ConnectionManager}
    (h : Rendered config g m manager) : ServedBy (g.snapshot config) m manager := by
  cases h with
  | @plain host l chain manager hhost hlistener hrole hchain hfilter =>
    have hmem : host ∈ g.plainHosts := Graph.mem_plainHosts.mpr hhost
    have hsome : g.plainHosts ≠ [] := List.ne_nil_of_mem hmem
    rcases mem_listeners.mp hlistener with ⟨-, rfl⟩ | ⟨-, rfl⟩
    · have hthere : chain ∈ (g.snapshot config).filterChains :=
        List.mem_flatMap.mpr ⟨_, hlistener, hchain⟩
      obtain rfl := List.mem_singleton.mp hchain
      obtain heq := List.mem_singleton.mp hfilter
      cases heq
      refine ⟨mem_managers_of_chain hthere hfilter,
        ⟨_, mem_routeConfigurations.mpr (.inl ⟨hsome, rfl⟩), rfl, ?_⟩, fun name hname hother => ?_⟩
      · exact List.mem_mergeSort.mpr (List.mem_map_of_mem hmem)
      · -- the entries of the host are among those of all hosts
        have hentries : ∀ e ∈ host.plainEntries, e ∈ plainEntries config g.plainHosts := fun e he =>
          List.mem_append_right _ (List.mem_flatMap.mpr ⟨host, hmem, he⟩)
        rw [mem_names_httpFilters]
        rcases List.mem_append.mp hname with hname | hname
        · obtain ⟨e, he, hname⟩ := mem_names_of_overrides hname true
          exact .inl ⟨e, hentries e (List.mem_append_left _ he), hname⟩
        · obtain ⟨e, he, hname⟩ := VirtualHost.routes_overrideNames hname hother
          exact .inl ⟨e, hentries e (List.mem_append_right _ he), hname⟩
    · have hne : ListenerRole.secure.name ≠ ListenerRole.plain.name := by decide
      exact absurd hrole hne
  | @secure host chain manager hhost hchain hfilter =>
    have hthere := mem_filterChains.mpr (.inr ⟨host, hhost, hchain⟩)
    cases (SecureHost.chained_of_chain? hchain).1 with
    | forwards tcp filters =>
      rw [filters] at hfilter
      cases List.mem_singleton.mp hfilter
    | serves tcp filters =>
      have hmem : host ∈ g.routedHosts config := mem_routedHosts.mpr ⟨⟨chain, hhost, hchain⟩, tcp⟩
      have hmanager := mem_managers_of_chain hthere hfilter
      rw [filters] at hfilter
      cases List.mem_singleton.mp hfilter
      refine ⟨hmanager, ⟨_, mem_routeConfigurations.mpr (.inr ⟨List.ne_nil_of_mem hmem, rfl⟩), rfl,
        ?_⟩, fun name hname hother => ?_⟩
      · exact List.mem_mergeSort.mpr (List.mem_map.mpr ⟨host, hmem, rfl⟩)
      · rw [mem_names_httpFilters]
        -- over TLS nothing is changed on a host as a whole
        rcases List.mem_append.mp hname with hname | hname
        · cases hname
        · obtain ⟨e, he, hname⟩ := VirtualHost.routes_overrideNames hname hother
          exact .inl ⟨e, List.mem_append_right _ he, hname⟩

/-- Every connection manager serves a host. -/
theorem exists_rendered_of_mem_managers {manager : ConnectionManager}
    (h : manager ∈ (g.snapshot config).managers) : ∃ m, Rendered config g m manager := by
  obtain ⟨filter, hfilter, hsome⟩ := List.mem_filterMap.mp h
  obtain ⟨chain, hchain, hfilter⟩ := List.mem_flatMap.mp hfilter
  cases filter with
  | tcpProxy => cases hsome
  | connectionManager manager' =>
    cases hsome
    rcases mem_filterChains.mp hchain with ⟨hsome, rfl⟩ | ⟨host, hhost, hchain⟩
    · obtain ⟨host, hhost⟩ := List.exists_mem_of_ne_nil _ hsome
      exact ⟨_, .plain (Graph.mem_plainHosts.mp hhost) (mem_listeners.mpr (.inl ⟨hsome, rfl⟩)) rfl
        (List.mem_singleton_self _) hfilter⟩
    · exact ⟨_, .secure hhost hchain hfilter⟩

end Managers

/-! ### References -/

section References

variable {config : ProxyConfig} {g : Graph}

/-- A name of a cluster in a message is that of a cluster of the graph. -/
theorem hasCluster_of_reference {name : String}
    (h : name ∈ (g.snapshot config).clusterReferences) :
    ∃ c, g.HasCluster c ∧ c.messageName = name := by
  -- the clusters of routes and those of forwardings are clusters of the same hosts
  have hroutes : ∀ (host : Host), g.HasHost host → ∀ (role : ListenerRole) (m : RouteMessage),
      m ∈ (host.virtualHost.message role).routes → name ∈ m.action.clusterNames →
      ∃ c, g.HasCluster c ∧ c.messageName = name := by
    rintro host ⟨l, hl, hhost⟩ role m hm hname
    obtain ⟨route, hroute, rfl⟩ := List.mem_map.mp hm
    obtain ⟨c, hc, hname⟩ := Route.message_clusterNames hname
    exact ⟨c, ⟨l, hl, host, hhost, .inl ⟨route, List.mem_mergeSort.mp hroute, hc⟩⟩, hname⟩
  rcases List.mem_append.mp h with h | h
  · obtain ⟨m, hm, hname⟩ := List.mem_flatMap.mp h
    obtain ⟨host, hhost, hm⟩ := List.mem_flatMap.mp hm
    obtain ⟨manager, hrendered⟩ := rendered_of_mem_virtualHosts hhost
    cases hrendered with
    | @plain host _ _ _ hplain => exact hroutes (.plain host) hplain .plain m hm hname
    | @secure host _ _ hsecure => exact hroutes (.secure host) hsecure .secure m hm hname
  · obtain ⟨filter, hfilter, hname⟩ := List.mem_flatMap.mp h
    obtain ⟨chain, hchain, hfilter⟩ := List.mem_flatMap.mp hfilter
    rcases mem_filterChains.mp hchain with ⟨-, rfl⟩ | ⟨host, ⟨l, hl, hhost⟩, hchain⟩
    · rw [List.mem_singleton.mp hfilter] at hname
      cases hname
    · cases (SecureHost.chained_of_chain? hchain).1 with
      | @forwards clusters tcp filters =>
        rw [filters] at hfilter
        rw [List.mem_singleton.mp hfilter] at hname
        obtain ⟨c, hc, hname⟩ := tcpClusters_names hname
        exact ⟨c, ⟨l, hl, _, hhost, .inr ⟨clusters, tcp, hc⟩⟩, hname⟩
      | serves tcp filters =>
        rw [filters] at hfilter
        rw [List.mem_singleton.mp hfilter] at hname
        cases hname

/-- A name of a secret in a message is that of a secret that is met. -/
theorem secret_of_reference {name : String} (h : name ∈ (g.snapshot config).secretReferences) :
    ∃ k ∈ g.visits.filterMap (Visit.secret? config), k.messageName = name := by
  rcases List.mem_append.mp h with h | h
  · obtain ⟨socket, hsocket, hname⟩ := List.mem_flatMap.mp h
    obtain ⟨chain, hchain, hsocket⟩ := List.mem_filterMap.mp hsocket
    rcases mem_filterChains.mp hchain with ⟨-, rfl⟩ | ⟨host, hhost, hchain⟩
    · cases hsocket
    · rw [(SecureHost.chained_of_chain? hchain).2] at hsocket
      obtain ⟨k, hk, rfl⟩ := Option.map_eq_some_iff.mp hsocket
      exact ⟨k, Graph.mem_secrets.mpr (.inl ⟨host, chain, hhost, hchain, hk⟩),
        (List.mem_singleton.mp hname).symm⟩
  · obtain ⟨socket, hsocket, hname⟩ := List.mem_flatMap.mp h
    obtain ⟨m, hm, hsocket⟩ := List.mem_filterMap.mp hsocket
    obtain ⟨key, hkey⟩ := mem_firstByName hm
    obtain ⟨c, hc, heq⟩ := List.mem_map.mp hkey
    cases heq
    -- a cluster has TLS settings only if it speaks TLS, and then it names its own certificate
    simp only [Cluster.message] at hsocket
    split at hsocket
    · cases hsocket
      obtain ⟨k, hk, rfl⟩ := List.mem_map.mp hname
      exact ⟨k, Graph.mem_secrets.mpr (.inr ⟨c, mem_cluster?.mp hc, Option.mem_toList.mp hk⟩), rfl⟩
    · cases hsocket

end References

/-- `Closed config g s` says what holds of the names in the snapshot `s` of the graph `g`: every
name that a message uses belongs to exactly one message of the snapshot. -/
structure Closed (config : ProxyConfig) (g : Graph) (s : Snapshot) : Prop where
  /-- Every name of a cluster in use is that of one cluster. -/
  clusterReferences : ∀ name ∈ s.clusterReferences, (s.clusters.map ClusterMessage.name).count name = 1
  /-- The names of clusters are those of the clusters of the graph. -/
  clusterNames : ∀ name, name ∈ s.clusters.map ClusterMessage.name ↔
    ∃ c, g.HasCluster c ∧ c.messageName = name
  /-- Every name of a secret in use is that of one secret. -/
  secretReferences : ∀ name ∈ s.secretReferences, (s.secrets.map SecretMessage.name).count name = 1
  /-- Every name of a route configuration in use is that of one route configuration. -/
  configReferences : ∀ manager ∈ s.managers,
    (s.routeConfigurations.map RouteConfiguration.name).count manager.routeConfigName = 1
  /-- Every host is one of the graph, and a connection manager serves it. -/
  hosts : ∀ m ∈ s.virtualHosts, ∃ manager, Rendered config g m manager
  /-- A connection manager that serves a host holds the filters that the host changes. -/
  served : ∀ m manager, Rendered config g m manager → ServedBy s m manager
  /-- The names of clusters increase. -/
  clusters : Increasing (s.clusters.map ClusterMessage.name)
  /-- The names of route configurations increase. -/
  routeConfigurations : Increasing (s.routeConfigurations.map RouteConfiguration.name)
  /-- The names of listeners increase. -/
  listeners : Increasing (s.listeners.map ListenerMessage.name)
  /-- The names of secrets increase. -/
  secrets : Increasing (s.secrets.map SecretMessage.name)

/-- The names that belong to the two roles increase, whichever of them are there. -/
theorem increasing_roles {plain secure : List String} (hplain : plain = [] ∨ plain = ["ingress_http"])
    (hsecure : secure = [] ∨ secure = ["ingress_https"]) : Increasing (plain ++ secure) := by
  rcases hplain with rfl | rfl <;> rcases hsecure with rfl | rfl
  · exact .nil
  · exact List.pairwise_singleton _ _
  · exact List.pairwise_singleton _ _
  · exact List.pairwise_pair.mpr (by decide)

theorem routeConfigurations_increasing (config : ProxyConfig) (g : Graph) :
    Increasing ((g.snapshot config).routeConfigurations.map RouteConfiguration.name) := by
  change Increasing (((plainPart config g.plainHosts).2 ++
    (securePart config (g.servedHosts config)).2).map RouteConfiguration.name)
  rw [List.map_append]
  refine increasing_roles ?_ ?_
  · unfold plainPart
    split
    · exact .inl rfl
    · exact .inr rfl
  · unfold securePart
    simp only
    split
    · exact .inl rfl
    · simp only
      split
      · exact .inl rfl
      · exact .inr rfl

theorem listeners_increasing (config : ProxyConfig) (g : Graph) :
    Increasing ((g.snapshot config).listeners.map ListenerMessage.name) := by
  change Increasing (((plainPart config g.plainHosts).1 ++
    (securePart config (g.servedHosts config)).1).map ListenerMessage.name)
  rw [List.map_append]
  refine increasing_roles ?_ ?_
  · unfold plainPart
    split
    · exact .inl rfl
    · exact .inr rfl
  · unfold securePart
    simp only
    split
    · exact .inl rfl
    · exact .inr rfl

/-- **Snapshots are closed under reference**, whatever the graph and the configuration. -/
theorem snapshot_closed (config : ProxyConfig) (g : Graph) :
    Closed config g (g.snapshot config) := by
  -- names that increase are different, so each name that occurs counts once
  have hclusters : Increasing ((g.snapshot config).clusters.map ClusterMessage.name) :=
    firstByName_increasing clusters_keyed
  have hsecrets : Increasing ((g.snapshot config).secrets.map SecretMessage.name) :=
    firstByName_increasing secrets_keyed
  have hconfigs := routeConfigurations_increasing config g
  refine ⟨?_, fun name => mem_cluster_names, ?_, ?_, fun m => rendered_of_mem_virtualHosts,
    fun m manager => Rendered.servedBy, hclusters, hconfigs, listeners_increasing config g, hsecrets⟩
  · intro name hname
    exact hclusters.count (mem_cluster_names.mpr (hasCluster_of_reference hname))
  · intro name hname
    exact hsecrets.count (mem_secret_names.mpr (secret_of_reference hname))
  · intro manager hmanager
    obtain ⟨m, hrendered⟩ := exists_rendered_of_mem_managers hmanager
    obtain ⟨c, hc, hname, -⟩ := hrendered.servedBy.routed
    exact hconfigs.count (List.mem_map.mpr ⟨c, hc, hname⟩)

end GatewayCompiler
