import GatewayCompiler.Proofs.Growth
import GatewayCompiler.Proofs.Snapshot

/-!
# The hosts of a graph

A graph has the hosts of a build that have something to serve, first those in plain text and then
those over TLS, both in the order of their names.  A walk over the graph comes to them in this order.

## Main definitions

* `Host.plain?`, `Host.secure?` — a host, if it is of one kind.
* `Visit.host?` — the host at a place.
* `Graph.hostsOf` — the hosts whose routes are served in a role.

## Main statements

* `Build.hosts_build` — the hosts of a built graph.
* `Build.plainHosts_build`, `Build.routedHosts_build` — those in plain text, and those over TLS whose
  requests are served.
* `Build.nodup_names_hostsOf` — their names differ.
-/

namespace GatewayCompiler

open Proxy

/-! ### Hosts on the way -/

/-- `h.plain?` is the host `h` if it is served in plain text. -/
def Host.plain? : Host → Option VirtualHost
  | .plain host => some host
  | .secure _ => none

/-- `h.secure?` is the host `h` if it is served over TLS. -/
def Host.secure? : Host → Option SecureHost
  | .plain _ => none
  | .secure host => some host

/-- `visit.host?` is the host that a walk over the graph meets at a place, if the place is that of a
host. -/
def Visit.host? : Visit → Option Host
  | .plainHost _ host => some (.plain host)
  | .secureHost _ host => some (.secure host)
  | _ => none

theorem Visit.filterMap_host?_allOfHost (l : Listener) (h : Host) :
    (allOfHost l h).filterMap Visit.host? = [h] := by
  -- of the visits of a host only the first is a visit of a host, the others are routes and clusters
  have hroutes : (h.virtualHost.routes.values.flatMap ofRoute).filterMap Visit.host? = [] := by
    rw [List.filterMap_eq_nil_iff]
    intro visit hvisit
    obtain ⟨route, -, hvisit⟩ := List.mem_flatMap.mp hvisit
    rcases List.mem_cons.mp hvisit with rfl | hvisit
    · rfl
    · obtain ⟨c, -, rfl⟩ := List.mem_map.mp hvisit
      rfl
  have htcp : (ofTcpProxy h.virtualHost.tcpProxy).filterMap Visit.host? = [] := by
    cases h.virtualHost.tcpProxy with
    | none => rfl
    | some clusters => simp [ofTcpProxy, Visit.host?]
  unfold allOfHost
  rw [List.filterMap_cons, List.filterMap_append, hroutes, htcp]
  cases h with
  | plain host => rfl
  | secure host => rfl

namespace Graph

/-- A walk comes to the hosts of a graph listener by listener, and to each of them once. -/
theorem filterMap_host?_visits (g : Graph) :
    g.visits.filterMap Visit.host? = g.listeners.flatMap fun l => l.hosts.values := by
  unfold Graph.visits
  rw [List.filterMap_flatMap]
  congr 1
  funext l
  unfold Visit.ofListener
  rw [List.filterMap_cons, List.filterMap_flatMap]
  simp only [Visit.filterMap_host?_allOfHost, Visit.host?]
  exact List.flatMap_singleton' _

/-- What is met at the hosts of a graph, where `pick` looks at nothing but hosts. -/
theorem filterMap_visits {β : Type} {pick : Visit → Option β} {pickHost : Host → Option β}
    (hpick : ∀ visit, pick visit = visit.host?.bind pickHost) (g : Graph) :
    g.visits.filterMap pick = (g.listeners.flatMap fun l => l.hosts.values).filterMap pickHost := by
  rw [← filterMap_host?_visits, List.filterMap_filterMap, funext hpick]

/-- The hosts in plain text are those among the hosts of all listeners. -/
theorem plainHosts_eq (g : Graph) :
    g.plainHosts = (g.listeners.flatMap fun l => l.hosts.values).filterMap Host.plain? := by
  refine filterMap_visits (fun visit => ?_) g
  cases visit <;> rfl

/-- The hosts over TLS that are served, as those among the hosts of all listeners that have a
chain. -/
theorem servedHosts_eq (config : ProxyConfig) (g : Graph) :
    g.servedHosts config = (g.listeners.flatMap fun l => l.hosts.values).filterMap fun h =>
      h.secure?.bind fun h => (h.chain? config).map (h, ·) := by
  refine filterMap_visits (fun visit => ?_) g
  cases visit <;> rfl

end Graph

/-! ### The hosts of a build -/

/-- `h.isRouted` says that the requests to a host over TLS are served: it has routes and a
certificate, and its connections are not forwarded. -/
def SecureHost.isRouted (h : SecureHost) : Bool :=
  h.host.tcpProxy.isNone && !h.host.routes.isEmpty && h.certificate.isSome

theorem SecureHost.isRouted_eq (config : ProxyConfig) (h : SecureHost) :
    ((h.chain? config).isSome && h.host.tcpProxy.isNone) = h.isRouted := by
  unfold SecureHost.isRouted SecureHost.chain? SecureHost.networkFilter?
  cases h.host.tcpProxy with
  | some clusters => simp
  | none => cases h.host.routes.isEmpty <;> cases h.certificate <;> rfl

namespace Build

variable {engine : Pattern.Engine}

/-- The hosts of a built graph are those of `buildAll` that have something to serve. -/
theorem hosts_build (cache : Cache) :
    ((Graph.build cache).listeners.flatMap fun l => l.hosts.values) =
      ((buildAll cache).plain.values.map Host.plain).filter Host.isRetained ++
        ((buildAll cache).secure.values.map Host.secure).filter Host.isRetained := by
  -- a listener without hosts is left out, which takes no host away
  have hlistener : ∀ (role : Nat) (m : OrderedMap String Host),
      ((if m.isEmpty then [] else [(⟨role, m⟩ : Listener)]).flatMap fun l => l.hosts.values)
        = m.values := by
    intro role m
    split
    · next hempty => rw [OrderedMap.eq_empty_of_isEmpty hempty]; rfl
    · simp
  have hvalues : ∀ {ν : Type} (wrap : ν → Host) (m : OrderedMap String ν),
      ((m.map wrap).filter Host.isRetained).values
        = (m.values.map wrap).filter Host.isRetained := by
    intro ν wrap m
    simp [OrderedMap.values, OrderedMap.filter, OrderedMap.map, List.filter_map, Function.comp_def]
  obtain ⟨statuses, heq⟩ := Building.recordOrphans_eq cache (buildAll cache)
  unfold Graph.build
  simp only [Building.listeners, heq]
  rw [Graph.listeners_ofListeners, List.flatMap_append, hlistener, hlistener, hvalues, hvalues]

/-- The hosts in plain text of a built graph are those of `buildAll` that have routes. -/
theorem plainHosts_build (cache : Cache) :
    (Graph.build cache).plainHosts
      = (buildAll cache).plain.values.filter fun h => !h.routes.isEmpty := by
  rw [Graph.plainHosts_eq, hosts_build]
  simp [List.filter_map, Function.comp_def, Host.plain?, Host.isRetained]

/-- The hosts over TLS of a built graph whose requests are served are those of `buildAll` that are
routed, by `SecureHost.isRouted`. -/
theorem routedHosts_build (config : ProxyConfig) (cache : Cache) :
    (Graph.build cache).routedHosts config
      = (buildAll cache).secure.values.filter SecureHost.isRouted := by
  have hserved : ∀ hosts : List Host, ((hosts.filterMap fun h => h.secure?.bind fun h =>
      (h.chain? config).map (h, ·)).map Prod.fst).filter (fun h => h.host.tcpProxy.isNone)
        = (hosts.filterMap Host.secure?).filter SecureHost.isRouted := by
    intro hosts
    induction hosts with
    | nil => rfl
    | cons h rest ih =>
      cases h with
      | plain h => exact ih
      | secure h =>
        have hrouted := h.isRouted_eq config
        cases hchain : h.chain? config <;> simp_all [Host.secure?, List.filter_cons]
  unfold Graph.routedHosts
  rw [Graph.servedHosts_eq, hosts_build, hserved]
  -- a host with a certificate is kept
  have hretained : ∀ h : SecureHost, (h.isRouted && (Host.secure h).isRetained) = h.isRouted := by
    intro h
    unfold SecureHost.isRouted Host.isRetained
    cases hcertificate : h.certificate <;> simp [hcertificate]
  simp [List.filter_map, Function.comp_def, Host.secure?, List.filter_filter, hretained]

end Build

/-! ### The hosts of a role -/

/-- `g.hostsOf config role` are the hosts whose routes are served in `role`. -/
def Graph.hostsOf (config : ProxyConfig) (g : Graph) : ListenerRole → List VirtualHost
  | .plain => g.plainHosts
  | .secure => (g.routedHosts config).map SecureHost.host

/-- A role with hosts has a route configuration of its name, and there are no others. -/
theorem mem_routeConfigurations_iff {config : ProxyConfig} {g : Graph} {c : RouteConfiguration} :
    c ∈ (g.snapshot config).routeConfigurations ↔ ∃ role, g.hostsOf config role ≠ [] ∧
      c = routeConfiguration role.name ((g.hostsOf config role).map (VirtualHost.message role)) := by
  have hrole : ∀ P : ListenerRole → Prop, (∃ role, P role) ↔ P .plain ∨ P .secure := fun P =>
    ⟨fun ⟨role, h⟩ => by cases role with | plain => exact .inl h | secure => exact .inr h,
      fun h => h.elim (⟨_, ·⟩) (⟨_, ·⟩)⟩
  rw [mem_routeConfigurations, hrole]
  simp [Graph.hostsOf, Function.comp_def]

/-- The hosts of a role have different names, as every map of hosts has them under their names. -/
theorem Build.nodup_names_hostsOf [Pattern.Engine] (config : ProxyConfig) (cache : Cache)
    (role : ListenerRole) :
    (((Graph.build cache).hostsOf config role).map VirtualHost.name).Nodup := by
  -- the map keys a host by its own name, and filtering keeps the names different
  cases role with
  | plain =>
    have hkeyed : (buildAll cache).plain.KeyedBy VirtualHost.name := fun p hp =>
      ((buildAll_grown cache).plain p.1 p.2 (OrderedMap.find?_eq_some_of_mem hp)).name_eq
    unfold Graph.hostsOf
    rw [plainHosts_build]
    refine (List.filter_sublist.map _).nodup ?_
    rw [hkeyed.map_values]
    exact OrderedMap.keys_nodup _
  | secure =>
    have hkeyed : (buildAll cache).secure.KeyedBy fun h => h.host.name := fun p hp =>
      ((buildAll_grown cache).secure p.1 p.2 (OrderedMap.find?_eq_some_of_mem hp)).host.name_eq
    unfold Graph.hostsOf
    rw [routedHosts_build, List.map_map]
    refine (List.filter_sublist.map _).nodup ?_
    rw [Function.comp_def, hkeyed.map_values]
    exact OrderedMap.keys_nodup _

end GatewayCompiler
