import GatewayCompiler.Proofs.Growth

/-!
# Graphs are well formed

What reads a graph relies on its shape: hosts and routes stand at their own keys, there is something
behind every one of them, and secrets and policies are complete.  All of this follows from the rules
by which hosts grow, and from the hosts that are dropped in the end because they serve nothing.

## Main definitions

* `Cluster.WellFormed`, `Route.WellFormed`, `VirtualHost.WellFormed` — the shape of the parts.
* `Host.Fits` — a host may stand on the listener of a role.
* `Listener.WellFormed`, `Graph.WellFormed` — the shape of the whole.

## Main statements

* `Build.Attached.wellFormed`, `Build.Grown.wellFormed` — routes and hosts as they come about.
* `Build.build_wellFormed` — every built graph.
-/

namespace GatewayCompiler

/-! ### The shape of a graph -/

/-- `k.IsKeypair` says that a certificate has its chain and its key. -/
structure KeyMaterial.IsKeypair (k : KeyMaterial) : Prop where
  /-- The chain is not empty. -/
  chain : k.certificateChain ≠ []
  /-- The key is not empty. -/
  key : k.privateKey ≠ []

/-- `c.WellFormed` says that the secrets of a cluster are complete. -/
structure Cluster.WellFormed (c : Cluster) : Prop where
  /-- The certificate that is shown to the backend has its key. -/
  certificate : ∀ keys, c.clientCertificate = some keys → keys.IsKeypair
  /-- The certificate of the backend is verified with some authorities. -/
  authorities : ∀ v, c.serverValidation = some v → v.ca.caBundle ≠ []
  /-- The name in the certificate of the backend is given. -/
  subject : ∀ v, c.serverValidation = some v → ¬ Text.isBlankText v.subjectName
  /-- The certificate of a backend is only verified over TLS. -/
  overTls : ∀ v, c.serverValidation = some v → c.backend.protocol = .tls

/-- `p.WellFormed` says that a request is repeated at least once, and no attempt has to be done in
no time. -/
structure RetryPolicy.WellFormed (p : RetryPolicy) : Prop where
  /-- There is a retry. -/
  retries : 1 ≤ p.numRetries
  /-- The time for an attempt is not zero. -/
  perTry : p.perTryTimeout ≠ .after 0

/-- `p.WellFormed` says that no request has to be done in no time. -/
structure TimeoutPolicy.WellFormed (p : TimeoutPolicy) : Prop where
  /-- The time for a response is not zero. -/
  response : p.response ≠ .after 0
  /-- The time without any data is not zero. -/
  idle : p.idle ≠ .after 0

/-- `r.WellFormed` says that a route leads somewhere, and its policies make sense. -/
structure Route.WellFormed (r : Route) : Prop where
  /-- There is a cluster. -/
  nonempty : r.clusters ≠ []
  /-- Requests are sent to all clusters. -/
  clusters : ∀ c ∈ r.clusters, c.WellFormed ∧ ∃ protocol, c.backend.transport = .http protocol
  /-- The retries. -/
  retry : ∀ p, r.retry = some p → p.WellFormed
  /-- The timeouts. -/
  timeout : ∀ p, r.timeout = some p → p.WellFormed

/-- `h.WellFormed` says that what is served under one name has the right shape. -/
structure VirtualHost.WellFormed (h : VirtualHost) : Prop where
  /-- Every route stands at its own key. -/
  keyed : h.routes.KeyedBy Route.key
  /-- The routes. -/
  routes : ∀ route ∈ h.routes.values, route.WellFormed
  /-- Connections are forwarded to some clusters, which take connections. -/
  tcpProxy : ∀ clusters, h.tcpProxy = some clusters → clusters ≠ [] ∧
    ∀ c ∈ clusters, c.WellFormed ∧ c.backend.transport = .tcp
  /-- The names of the filters differ. -/
  filters : (h.filters.map Filter.name).Nodup

/-- `h.Fits role` says that a host may stand on the listener of `role`. -/
inductive Host.Fits : Nat → Host → Prop
  /-- In plain text there are routes, and no connections are forwarded. -/
  | plain {h : VirtualHost} (routes : h.routes.values ≠ []) (direct : h.tcpProxy = none) :
      Fits Listener.plainRole (.plain h)
  /-- Over TLS there is a complete certificate, or connections are forwarded. -/
  | secure {h : SecureHost} (certificate : ∀ keys, h.certificate = some keys → keys.IsKeypair)
      (serves : h.certificate ≠ none ∨ h.host.tcpProxy ≠ none) :
      Fits Listener.secureRole (.secure h)

/-- `l.WellFormed` says that a listener has hosts, each under its own name. -/
structure Listener.WellFormed (l : Listener) : Prop where
  /-- There is a host. -/
  nonempty : l.hosts.values ≠ []
  /-- Every host stands at its own name. -/
  named : l.hosts.KeyedBy fun h => h.virtualHost.name
  /-- The hosts. -/
  hosts : ∀ h ∈ l.hosts.values, h.virtualHost.WellFormed ∧ h.Fits l.role

/-- `g.WellFormed` says that a graph has a listener for plain text and one for TLS at most, in this
order, and that all of both is in shape. -/
structure Graph.WellFormed (g : Graph) : Prop where
  /-- The roles of the listeners. -/
  roles : (g.listeners.map Listener.role).Sublist [Listener.plainRole, Listener.secureRole]
  /-- The listeners. -/
  listeners : ∀ l ∈ g.listeners, l.WellFormed

/-! ### Policies -/

/-- A time of zero leaves the proxy's own limit in place, so that it is never parsed as `.after
0`. -/
theorem Timeout.parse_ne_after_zero (text : String) : Timeout.parse text ≠ .after 0 := by
  unfold Timeout.parse
  simp only
  -- zero nanoseconds were tested for on the way
  split
  · nofun
  · split
    · nofun
    · split
      · nofun
      · split
        · nofun
        · next hnanos =>
          rintro ⟨⟩
          exact hnanos rfl

theorem Timeout.ofText?_ne_after_zero (text : Option String) : Timeout.ofText? text ≠ .after 0 := by
  cases text with
  | none => nofun
  | some text => exact Timeout.parse_ne_after_zero text

theorem RetryPolicy.ofSpec_wellFormed (spec : RetrySpec) : (RetryPolicy.ofSpec spec).WellFormed where
  retries := Nat.le_max_right _ _
  perTry := Timeout.ofText?_ne_after_zero _

theorem RetryPolicy.ofAnnotations?_wellFormed {m : Metadata} {p : RetryPolicy}
    (h : RetryPolicy.ofAnnotations? m = some p) : p.WellFormed := by
  obtain ⟨retryOn, -, h⟩ := Option.bind_eq_some_iff.mp h
  simp only at h
  split at h
  · cases h
  · cases h
    exact ⟨Nat.le_max_right _ _, Timeout.ofText?_ne_after_zero _⟩

theorem TimeoutPolicy.ofSpec_wellFormed (spec : TimeoutSpec) :
    (TimeoutPolicy.ofSpec spec).WellFormed where
  response := Timeout.ofText?_ne_after_zero _
  idle := Timeout.ofText?_ne_after_zero _

theorem TimeoutPolicy.ofAnnotations?_wellFormed {m : Metadata} {p : TimeoutPolicy}
    (h : TimeoutPolicy.ofAnnotations? m = some p) : p.WellFormed := by
  obtain ⟨response, -, h⟩ := Option.bind_eq_some_iff.mp h
  split at h
  · cases h
  · cases h
    exact ⟨Timeout.parse_ne_after_zero _, nofun⟩

namespace Build

variable {engine : Pattern.Engine} {cache : Cache}

/-! ### Secrets -/

/-- A certificate that is looked up with its key has both. -/
theorem isKeypair_of_keypair? {identity : Identity} {keys : KeyMaterial}
    (h : cache.keypair? identity = some keys) : keys.IsKeypair := by
  have hboth := (Option.filter_eq_some_iff.mp h).2
  rw [KeyMaterial.hasKeypair, Bool.and_eq_true, bne_iff_ne, bne_iff_ne] at hboth
  exact ⟨hboth.1, hboth.2⟩

/-- The certificate of a host has its key. -/
theorem Certifies.isKeypair {name : String} {secret : KeyMaterial} {space : String}
    (h : Certifies cache name secret space) : secret.IsKeypair := by
  cases h with
  | @ingress i ingress tls found part grants =>
    obtain ⟨reference, -, hkeys, -⟩ :=
      exists_of_grantedCertificate?
        (grants.found.holds (grantedKeypair?_result i.space tls).answers).symm
    exact isKeypair_of_keypair? hkeys
  | @root root host v minVersion accepted domain =>
    obtain ⟨tls, -, hnames⟩ := rootMode_certificate accepted.mode
    obtain ⟨reference, -, -, hkeys, -⟩ := hnames.reference
    exact isKeypair_of_keypair? hkeys

/-- The verification of a certificate is complete. -/
theorem Verifies.complete {space : String} {s : ServiceSpec} {v : ServerValidation}
    (h : Verifies cache space s (some v)) : v.ca.caBundle ≠ [] ∧ ¬ Text.isBlankText v.subjectName := by
  unfold Verifies at h
  cases hspec : s.serverValidation with
  | none =>
    rw [hspec] at h
    cases h
  | some spec =>
    rw [hspec] at h
    obtain ⟨ca, hca, hsubject, heq⟩ := h
    cases heq
    have hbundle := (Option.filter_eq_some_iff.mp hca).2
    rw [KeyMaterial.hasCaBundle, bne_iff_ne] at hbundle
    exact ⟨hbundle, hsubject⟩

/-- The certificate that is shown to a service has its key. -/
theorem Presents.isKeypair {space : String} {s : ServiceSpec} {keys : KeyMaterial}
    (h : Presents cache space s (some keys)) : keys.IsKeypair := by
  unfold Presents at h
  cases hreference : s.clientSecret with
  | none =>
    rw [hreference] at h
    cases h
  | some reference =>
    rw [hreference] at h
    obtain ⟨found, hfound, heq⟩ := h
    cases heq
    exact isKeypair_of_keypair? hfound

/-- A cluster that has what a service asks for is well formed: its secrets are looked up for their
use. -/
theorem ClusterOf.wellFormed {space : String} {s : ServiceSpec} {c : Cluster}
    (h : ClusterOf cache space s c) : c.WellFormed := by
  by_cases htls : c.backend.protocol = .tls
  · obtain ⟨hverifies, hpresents⟩ := h.overTls htls
    refine ⟨fun keys hkeys => ?_, fun v hv => ?_, fun v hv => ?_, fun _ _ => htls⟩
    · exact (hkeys ▸ hpresents).isKeypair
    · exact (hv ▸ hverifies).complete.1
    · exact (hv ▸ hverifies).complete.2
  · obtain ⟨hvalidation, hcertificate⟩ := h.otherwise htls
    refine ⟨?_, ?_, ?_, ?_⟩
    · simp [hcertificate]
    · simp [hvalidation]
    · simp [hvalidation]
    · simp [hvalidation]

/-! ### Routes -/

/-- Requests are sent to the backend that is looked up, over HTTP. -/
theorem lookupBackend_http (service : Identity) (selector : PortSelector) (given : Option Protocol) :
    Answers cache (lookupBackend cache service selector given) fun found =>
      ∀ backend, found = some backend → ∃ protocol, backend.transport = .http protocol := by
  intro known hknown
  obtain ⟨hfound, hsound⟩ := lookupBackend_answers service selector given known hknown
  refine ⟨fun backend hbackend => ?_, hsound⟩
  rw [hbackend] at hfound
  cases hport : findPort? cache service selector with
  | none =>
    rw [hport] at hfound
    cases hfound
  | some port =>
    rw [hport] at hfound
    obtain ⟨resolved, -, heq⟩ := hfound
    cases heq
    exact ⟨_, rfl⟩

/-- The routes that hosts get are well formed, by the rules of `Attached`. -/
theorem Attached.wellFormed {route : Route} (h : Attached cache route) : route.WellFormed := by
  cases h with
  | @entry offer route offered made resolved upgrade =>
    obtain ⟨filters, hshape⟩ := made.shape
    have hretry : route.retry = offer.route.retry.map RetryPolicy.ofSpec :=
      (congrArg Route.retry hshape).trans rfl
    have htimeout : route.timeout = offer.route.timeout.map TimeoutPolicy.ofSpec :=
      (congrArg Route.timeout hshape).trans rfl
    refine ⟨made.nonempty, fun c hc => ?_, fun p hp => ?_, fun p hp => ?_⟩
    · obtain ⟨found, -, hbuilt⟩ := made.clusters
      obtain ⟨s, -, hbuilds⟩ := Builds.of_mem hbuilt hc
      exact ⟨hbuilds.clusterOf.wellFormed, hbuilds.http⟩
    · obtain ⟨spec, -, rfl⟩ := Option.map_eq_some_iff.mp (hretry.symm.trans hp)
      exact RetryPolicy.ofSpec_wellFormed spec
    · obtain ⟨spec, -, rfl⟩ := Option.map_eq_some_iff.mp (htimeout.symm.trans hp)
      exact TimeoutPolicy.ofSpec_wellFormed spec
  | @ingress i ingress entry service selector backend found entry_mem named resolved upgrade =>
    refine ⟨List.cons_ne_nil _ _, fun c hc => ?_, fun p => ?_, fun p => ?_⟩
    · -- the only cluster of an ingress has no secrets
      rw [List.mem_singleton.mp hc]
      exact ⟨⟨nofun, nofun, nofun, nofun⟩,
        resolved.holds (lookupBackend_http service selector none) backend rfl⟩
    · exact RetryPolicy.ofAnnotations?_wellFormed
    · exact TimeoutPolicy.ofAnnotations?_wellFormed

/-! ### Hosts -/

/-- What comes to be served under a name is well formed at all times.  By induction on the rules of
`Grown`. -/
theorem Grown.wellFormed {name : String} {overTls : Bool} {h : VirtualHost}
    (hh : Grown cache name overTls h) : h.WellFormed where
  keyed := hh.routes.1
  routes := by
    intro route hroute
    obtain ⟨⟨key, _⟩, hmem, rfl⟩ := List.mem_map.mp hroute
    exact (hh.routes.2 key _ (OrderedMap.find?_eq_some_of_mem hmem)).wellFormed
  tcpProxy := by
    intro clusters hsome
    -- each cluster is made for a service, and a proxy without services is refused
    obtain ⟨-, space, services, hforwards⟩ := hh.tcpProxy hsome
    refine ⟨?_, fun c hc => ?_⟩
    · rintro rfl
      exact hforwards.nonempty (List.eq_nil_of_length_eq_zero hforwards.clusters.length_eq)
    · obtain ⟨s, -, hof, htcp⟩ := hforwards.of_mem hc
      exact ⟨hof.wellFormed, htcp⟩
  filters := hh.nodup_filters

/-- A host in plain text with something to serve may stand on its listener. -/
theorem Grown.fits {name : String} {h : VirtualHost} (hh : Grown cache name false h)
    (hretained : (Host.plain h).isRetained) : (Host.plain h).Fits Listener.plainRole := by
  refine .plain (fun hnil => ?_) ?_
  · rw [Host.isRetained, OrderedMap.isEmpty, List.map_eq_nil_iff.mp hnil] at hretained
    cases hretained
  · -- connections are only forwarded over TLS
    cases htcp : h.tcpProxy with
    | none => rfl
    | some clusters => cases (hh.tcpProxy htcp).1

/-- A host over TLS with something to serve may stand on its listener. -/
theorem SecurelyGrown.fits {name : String} {h : SecureHost} (hh : SecurelyGrown cache name h)
    (hretained : (Host.secure h).isRetained) : (Host.secure h).Fits Listener.secureRole := by
  refine .secure (fun keys hkeys => ?_) ?_
  · obtain ⟨space, hcertifies⟩ := hh.certificate keys hkeys
    exact hcertifies.isKeypair
  · rw [Host.isRetained, Bool.or_eq_true, Option.isSome_iff_ne_none, Option.isSome_iff_ne_none]
      at hretained
    exact hretained

/-! ### Whole graphs -/

/-- A listener whose hosts are made by the rules is well formed, once those that serve nothing are
dropped. -/
theorem wellFormed_of_hosts {ν : Type} {role : Nat} {hosts : OrderedMap String ν}
    {wrap : ν → Host} (hsome : ¬ ((hosts.map wrap).filter Host.isRetained).isEmpty)
    (hhosts : ∀ name h, hosts.find? name = some h → (wrap h).isRetained →
      (wrap h).virtualHost.name = name ∧ (wrap h).virtualHost.WellFormed ∧ (wrap h).Fits role) :
    Listener.WellFormed ⟨role, (hosts.map wrap).filter Host.isRetained⟩ := by
  -- retained hosts stand under their own names and fit the role of the listener
  have heach : ∀ p ∈ ((hosts.map wrap).filter Host.isRetained).toList,
      p.2.virtualHost.name = p.1 ∧ p.2.virtualHost.WellFormed ∧ p.2.Fits role := by
    intro p hp
    obtain ⟨hmem, hretained⟩ := List.mem_filter.mp hp
    have hfind := OrderedMap.find?_eq_some_of_mem hmem
    rw [OrderedMap.find?_map] at hfind
    obtain ⟨h, hfound, heq⟩ := Option.map_eq_some_iff.mp hfind
    rw [← heq] at hretained ⊢
    exact hhosts p.1 h hfound hretained
  refine ⟨fun hnil => hsome ?_, fun p hp => (heach p hp).1, fun h hh => ?_⟩
  · rw [OrderedMap.isEmpty, List.map_eq_nil_iff.mp hnil]
    rfl
  · obtain ⟨p, hp, rfl⟩ := List.mem_map.mp hh
    exact (heach p hp).2

/-- **Every built graph is well formed**, whatever the cache. -/
theorem build_wellFormed (cache : Cache) : (Graph.build cache).WellFormed := by
  have hall := recordOrphans_grown cache
  have hlisteners := @Graph.listeners_ofListeners
    (((buildAll cache).recordOrphans cache).plain.map .plain)
    (((buildAll cache).recordOrphans cache).secure.map .secure)
    ((buildAll cache).recordOrphans cache).statuses
  refine ⟨?_, fun l hl => ?_⟩
  · change (List.map Listener.role (Graph.ofListeners _ _).listeners).Sublist _
    rw [Building.listeners, hlisteners, List.map_append]
    have hroles : [Listener.plainRole, Listener.secureRole] =
        [Listener.plainRole] ++ [Listener.secureRole] := rfl
    rw [hroles]
    refine List.Sublist.append ?_ ?_
    · split
      · exact List.nil_sublist _
      · exact List.Sublist.refl _
    · split
      · exact List.nil_sublist _
      · exact List.Sublist.refl _
  · change l ∈ (Graph.ofListeners _ _).listeners at hl
    rw [Building.listeners, hlisteners] at hl
    -- the two listeners in turn: each stands only if it has hosts
    rcases List.mem_append.mp hl with hl | hl
    · split at hl
      · cases hl
      · next hsome =>
        rw [List.mem_singleton.mp hl]
        refine wellFormed_of_hosts hsome fun name h hfound hretained => ?_
        have hgrown := hall.plain name h hfound
        exact ⟨hgrown.name_eq, hgrown.wellFormed, hgrown.fits hretained⟩
    · split at hl
      · cases hl
      · next hsome =>
        rw [List.mem_singleton.mp hl]
        refine wellFormed_of_hosts hsome fun name h hfound hretained => ?_
        have hgrown := hall.secure name h hfound
        exact ⟨hgrown.host.name_eq, hgrown.host.wellFormed, hgrown.fits hretained⟩

end Build

end GatewayCompiler
