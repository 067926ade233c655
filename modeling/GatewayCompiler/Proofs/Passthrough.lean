import GatewayCompiler.Proofs.Certificates
import GatewayCompiler.Proofs.Isolation
import GatewayCompiler.Proofs.Snapshot

/-!
# Roots that pass connections on

A root may ask for its connections to be passed on without being decrypted.  It then has no certificate
of its own, and its host over TLS is made without one, unless the host is there already: an ingress that
names the domain in its TLS part has given it a certificate, and the root leaves this as it is.  The
connections are then decrypted with it before they are forwarded.

## Main statements

* `rootMode_passthrough` — such a root, if it is in order, passes connections on.
* `accepted_of_forwards` — only the root itself attaches a forwarding to its host.
* `certificate_buildAll` — such a root leaves the certificate of its host alone.
* `build_passthrough` — connections are decrypted exactly if an ingress gives a certificate.
* `vault_decrypted` — a root whose connections are decrypted.
-/

namespace GatewayCompiler

open Proxy

theorem Graph.hasHost_of_host? {g : Graph} {role : Nat} {name : String} {h : Host}
    (hhost : g.host? role name = some h) : g.HasHost h := by
  obtain ⟨l, hl, hfind⟩ := Option.bind_eq_some_iff.mp hhost
  exact ⟨l, List.mem_of_find?_eq_some hl, OrderedMap.mem_values_of_find?_eq_some hfind⟩

/-- The chain of a host is chosen by the name of the host, and by nothing else. -/
theorem SecureHost.serverNames_of_chain? {config : ProxyConfig} {h : SecureHost}
    {chain : FilterChain} (hchain : h.chain? config = some chain) :
    chain.serverNames = some [h.host.name] := by
  obtain ⟨filter, -, heq⟩ := Option.bind_eq_some_iff.mp hchain
  cases heq
  rfl

namespace Build

section

variable {engine : Pattern.Engine} {cache : Cache} {root : Identity} {host : GatewayHost} {v : VirtualHostSpec}
  {tls : TlsSpec}

/-! ### The root -/

/-- `PassesOn tls` says that the TLS settings `tls` ask for connections to be passed on, and name no
secret. -/
structure PassesOn (tls : TlsSpec) : Prop where
  /-- Connections are to be passed on. -/
  passthrough : tls.passthrough = true
  /-- A secret is not named, or its name is blank. -/
  nameless : ∀ name, tls.secretName = some name → Text.isBlankText name

/-- The check of a root with such settings gives the mode `.passthrough` or a problem. -/
theorem rootMode_passthrough (htls : v.tls = some tls) (passes : PassesOn tls) {mode : TlsMode}
    (h : rootMode cache root v = .ok mode) : mode = .passthrough := by
  -- a blank name counts as none, and with passthrough only such a name may stand
  have nameless : namedSecret? tls = none := by
    rw [namedSecret?, Option.filter_eq_none_iff]
    intro name hsome
    simpa using passes.nameless name hsome
  have hresult := rootMode_result cache root v
  rw [h] at hresult
  cases hresult with
  | settled space domain star settings =>
    rw [htls] at settings
    cases settings with
    | passed => rfl
    | terminated named =>
      rw [nameless] at named
      cases named

/-- Only the root itself attaches a forwarding to its host, so that a host with one has an accepted
root. -/
theorem accepted_of_forwards (found : cache.gatewayHosts.find? root = some host)
    (virtualHost : host.virtualHost = some v) (htls : v.tls = some tls) (passes : PassesOn tls)
    {h : SecureHost} (hfind : (buildAll cache).secure.find? v.domain = some h)
    (tcp : h.host.tcpProxy.isSome) : Accepted cache root host v .passthrough := by
  by_cases haccepted : ∃ mode, Accepted cache root host v mode
  · obtain ⟨mode, accepted⟩ := haccepted
    have hmode := rootMode_passthrough htls passes accepted.mode
    rwa [hmode] at accepted
  · -- no other root of the name can be accepted, and the ingresses forward nothing
    have hnone : Unaccepted cache v.domain := by
      intro root' host' v' mode' accepted hdomain
      have hmem : root ∈ sharers cache.gatewayHosts v.domain :=
        mem_sharers.mpr ⟨host, v, found, virtualHost, rfl⟩
      rw [← hdomain, accepted.alone, List.mem_singleton] at hmem
      subst hmem
      have hhost : host = host' := Option.some.inj (found.symm.trans accepted.found)
      subst hhost
      have hv : v = v' := Option.some.inj (virtualHost.symm.trans accepted.virtualHost)
      subst hv
      exact haccepted ⟨mode', accepted⟩
    have hsame := Building.secureAt_congr (buildAll_hostsAt_of_unaccepted hnone)
    have hkept := addIngresses_keepsSecure cache v.domain
    rw [← hsame, Building.secureAt_of_find? hfind] at hkept
    have hproxy : h.host.tcpProxy = none := hkept
    rw [hproxy] at tcp
    cases tcp

/-- A root that passes connections on leaves the certificate of its host as the ingresses have made
it. -/
theorem certificate_buildAll [Pattern.Engine] (accepted : Accepted cache root host v .passthrough) :
    ((buildAll cache).secureAt v.domain).certificate
      = ((addIngresses cache).secureAt v.domain).certificate := by
  obtain ⟨hbefore, hrest⟩ := buildAll_hostsAt accepted
  have hlook : Building.KeepsSecure SecureHost.certificate (buildBefore cache root)
      ((buildBefore cache root).look (checkRoot cache root v).run).2 := .of_secure_eq rfl
  have hroot : Building.KeepsSecure SecureHost.certificate (buildBefore cache root)
      ((buildBefore cache root).addRoot cache (root, host)) := by
    rw [Building.addRoot_eq accepted (buildBefore_sound cache root)]
    refine (hlook.trans (Building.openRoot_keepsSecure _ ?_)).trans
      (Building.takeAll_keepsSecure _ _ _)
    rintro certificate minVersion ⟨⟩
  rw [Building.secureAt_congr hrest, ← Building.secureAt_congr hbefore]
  exact hroot v.domain

/-! ### The graph -/

/-- Hosts over TLS of a graph stand at their names in `buildAll`. -/
theorem find?_of_hasHost {h : SecureHost} (hhost : (Graph.build cache).HasHost (.secure h)) :
    (buildAll cache).secure.find? h.host.name = some h := by
  obtain ⟨l, hl, hmem⟩ := hhost
  obtain ⟨⟨name, h'⟩, hentry, rfl⟩ := List.mem_map.mp hmem
  have hfind := OrderedMap.find?_eq_some_of_mem hentry
  -- the plain listener holds no secure hosts
  rcases Graph.hosts_of_mem_listeners hl with heq | heq
  · rw [heq, OrderedMap.find?_filter, OrderedMap.find?_map] at hfind
    obtain ⟨hsome, -⟩ := Option.filter_eq_some_iff.mp hfind
    obtain ⟨_, -, heq'⟩ := Option.map_eq_some_iff.mp hsome
    cases heq'
  · rw [heq, OrderedMap.find?_filter, OrderedMap.find?_map] at hfind
    obtain ⟨hsome, -⟩ := Option.filter_eq_some_iff.mp hfind
    obtain ⟨_, hstored, heq'⟩ := Option.map_eq_some_iff.mp hsome
    cases heq'
    obtain ⟨statuses, hrecord⟩ := Building.recordOrphans_eq cache (buildAll cache)
    rw [hrecord] at hstored
    have hname := name_buildAll hstored
    rw [hname]
    exact hstored

/-- A host over TLS of the graph is the one of `buildAll` at that name. -/
theorem find?_of_host? {name : String} {h : SecureHost}
    (hhost : (Graph.build cache).host? Listener.secureRole name = some (.secure h)) :
    (buildAll cache).secure.find? name = some h := by
  rw [(host?_build cache name).2] at hhost
  obtain ⟨hmapped, -⟩ := Option.filter_eq_some_iff.mp hhost
  obtain ⟨h', hfind, heq⟩ := Option.map_eq_some_iff.mp hmapped
  cases heq
  exact hfind

/-- A chain that is chosen by the name of a host is the one of this host, as hosts have different
names. -/
theorem chain?_of_serverNames {name : String} {h : SecureHost}
    (hhost : (Graph.build cache).host? Listener.secureRole name = some (.secure h))
    {config : ProxyConfig} {chain : FilterChain}
    (hmem : chain ∈ ((Graph.build cache).snapshot config).filterChains)
    (hserver : chain.serverNames = some [name]) : h.chain? config = some chain := by
  rcases mem_filterChains.mp hmem with ⟨-, rfl⟩ | ⟨h', hhost', hchain⟩
  · cases hserver
  rw [SecureHost.serverNames_of_chain? hchain] at hserver
  have hname : h'.host.name = name := by simpa using hserver
  have hsame := find?_of_hasHost hhost'
  rw [hname, find?_of_host? hhost, Option.some.injEq] at hsame
  rw [hsame]
  exact hchain

/-- A host that forwards its connections has a chain, with a certificate or without. -/
theorem exists_chain_of_forwards {name : String} {h : SecureHost}
    (hhost : (Graph.build cache).host? Listener.secureRole name = some (.secure h))
    {clusters : List Cluster} (tcp : h.host.tcpProxy = some clusters) (config : ProxyConfig) :
    ∃ chain ∈ ((Graph.build cache).snapshot config).filterChains,
      chain.serverNames = some [name] := by
  have hchain : ∃ chain, h.chain? config = some chain := by
    unfold SecureHost.chain? SecureHost.networkFilter?
    simp [tcp]
  obtain ⟨chain, hchain⟩ := hchain
  refine ⟨chain, mem_filterChains.mpr (.inr ⟨h, Graph.hasHost_of_host? hhost, hchain⟩), ?_⟩
  rw [SecureHost.serverNames_of_chain? hchain, name_buildAll (find?_of_host? hhost)]

/-- **When connections are passed on as they are.** A root asks for its connections to be passed on,
and its forwarding is attached to its host over TLS.  There is a chain for the domain name, and all
of them forward the connections.  They are decrypted before if and only if an ingress gives the host
a certificate. -/
theorem build_passthrough (found : cache.gatewayHosts.find? root = some host)
    (virtualHost : host.virtualHost = some v) (htls : v.tls = some tls) (passes : PassesOn tls)
    {h : SecureHost}
    (attached : (Graph.build cache).host? Listener.secureRole v.domain = some (.secure h))
    {clusters : List Cluster} (tcp : h.host.tcpProxy = some clusters) (config : ProxyConfig) :
    (∃ chain ∈ ((Graph.build cache).snapshot config).filterChains,
      chain.serverNames = some [v.domain]) ∧
    ∀ chain ∈ ((Graph.build cache).snapshot config).filterChains,
      chain.serverNames = some [v.domain] →
      chain.filters = [tcpProxyFilter ListenerRole.secure.name clusters] ∧
      (chain.transportSocket = none ↔ ¬ Granted cache v.domain) := by
  have hstored := find?_of_host? attached
  have accepted := accepted_of_forwards found virtualHost htls passes hstored (by rw [tcp]; rfl)
  -- forwarding leaves the certificate as the ingresses left it
  have hcertificate : h.certificate.isSome ↔ Granted cache v.domain := by
    have hsame := certificate_buildAll accepted
    rw [Building.secureAt_of_find? hstored] at hsame
    rw [hsame]
    exact certificate_addIngresses
  refine ⟨exists_chain_of_forwards attached tcp config, fun chain hmem hserver => ?_⟩
  obtain ⟨hchained, hsocket⟩ :=
    SecureHost.chained_of_chain? (chain?_of_serverNames attached hmem hserver)
  constructor
  · cases hchained with
    | @forwards clusters' tcp' filters =>
      rw [tcp, Option.some.injEq] at tcp'
      rw [filters, tcp']
    | serves tcp' filters =>
      rw [tcp] at tcp'
      cases tcp'
  · rw [hsocket, Option.map_eq_none_iff, ← Option.not_isSome_iff_eq_none, hcertificate]

end

/-! ### A root whose connections are decrypted -/

/-- TLS settings that ask for connections to be passed on. -/
def passedOn : TlsSpec := ⟨none, none, true⟩

/-- A root that forwards its connections as they are, by `passedOn`. -/
def vaultRoot : GatewayHost where
  metadata := { name := some "vault", space := some "default" }
  virtualHost := some ⟨"vault.test", some passedOn, []⟩
  routes := []
  tcpProxy := some ⟨[⟨"vault", 8200, 1, none, none, none, none, none, []⟩], none⟩

/-- An ingress that names the domain of the root in its TLS part. -/
def vaultIngress : Ingress where
  metadata := { name := some "web", space := some "default" }
  spec := { className := none, defaultBackend := none, rules := [],
            tls := [⟨["vault.test"], some "web-tls"⟩] }

/-- A cache with `vaultRoot`, its service and a certificate, and with some ingresses. -/
def vaultCache (ingresses : OrderedMap Identity Ingress) : Cache where
  ingresses := ingresses
  gatewayHosts := .ofList [(⟨"default", "vault"⟩, vaultRoot)]
  services := .ofList [(⟨"default", "vault"⟩,
    ⟨{ name := some "vault", space := some "default" }, none, none, [⟨none, 8200⟩]⟩)]
  secrets := .ofList [(⟨"default", "web-tls"⟩,
    ⟨{ name := some "web-tls", space := some "default" },
      .ofList [("tls.crt", [1]), ("tls.key", [2])]⟩)]

theorem passedOn_passesOn : PassesOn passedOn := ⟨rfl, by rintro _ ⟨⟩⟩

theorem vault_buildAll (ingresses : OrderedMap Identity Ingress) :
    buildAll (vaultCache ingresses) =
      (((sortHosts (vaultCache ingresses) (addIngresses (vaultCache ingresses))).look
        (checkRoot (vaultCache ingresses) ⟨"default", "vault"⟩
          ⟨"vault.test", some passedOn, []⟩).run).2.openRoot (vaultCache ingresses)
            ⟨"default", "vault"⟩ vaultRoot ⟨"vault.test", some passedOn, []⟩ .passthrough).takeAll
        (vaultCache ingresses) ⟨"vault.test", false⟩
        [.forward ⟨"default", "vault"⟩ [⟨"vault", 8200, 1, none, none, none, none, none, []⟩]] := by
  have accepted : Accepted (vaultCache ingresses) ⟨"default", "vault"⟩ vaultRoot
      ⟨"vault.test", some passedOn, []⟩ .passthrough := ⟨rfl, rfl, rfl, rfl⟩
  have hsteps : walkSteps (vaultCache ingresses) ⟨"default", "vault"⟩ vaultRoot "vault.test"
      .passthrough
        = [.forward ⟨"default", "vault"⟩ [⟨"vault", 8200, 1, none, none, none, none, none, []⟩]] := by
    change tcpSteps _ _ _ _ = _
    rw [tcpSteps_eq]
    rfl
  rw [buildAll_of_single rfl accepted]
  exact congrArg (fun steps => Building.takeAll _ ⟨"vault.test", false⟩ steps _) hsteps

/-- The forwarding is attached, with and without the ingress. -/
theorem vault_attached :
    (∃ h clusters, (Graph.build (vaultCache {})).host? Listener.secureRole "vault.test"
      = some (.secure h) ∧ h.host.tcpProxy = some clusters) ∧
    ∃ h clusters, (Graph.build (vaultCache (.ofList [(⟨"default", "web"⟩, vaultIngress)]))).host?
      Listener.secureRole "vault.test" = some (.secure h) ∧ h.host.tcpProxy = some clusters ∧
      h.certificate.isSome := by
  unfold Graph.build
  rw [vault_buildAll, vault_buildAll]
  exact ⟨⟨_, _, rfl, rfl⟩, _, _, rfl, rfl, rfl⟩

/-- Without the ingress the connections are passed on as they are. -/
theorem vault_passed_on : ∃ h clusters,
    (Graph.build (vaultCache {})).host? Listener.secureRole "vault.test" = some (.secure h) ∧
    h.host.tcpProxy = some clusters ∧ ∀ config,
      (∃ chain ∈ ((Graph.build (vaultCache {})).snapshot config).filterChains,
        chain.serverNames = some ["vault.test"]) ∧
      ∀ chain ∈ ((Graph.build (vaultCache {})).snapshot config).filterChains,
        chain.serverNames = some ["vault.test"] →
        chain.filters = [tcpProxyFilter ListenerRole.secure.name clusters] ∧
        chain.transportSocket = none := by
  obtain ⟨h, clusters, attached, tcp⟩ := vault_attached.1
  refine ⟨h, clusters, attached, tcp, fun config => ?_⟩
  obtain ⟨hexists, hall⟩ := @build_passthrough _ (vaultCache {}) ⟨"default", "vault"⟩ vaultRoot
    ⟨"vault.test", some passedOn, []⟩ passedOn rfl rfl rfl passedOn_passesOn h attached clusters tcp
    config
  refine ⟨hexists, fun chain hmem hserver => ?_⟩
  obtain ⟨hfilters, hsocket⟩ := hall chain hmem hserver
  exact ⟨hfilters, hsocket.mpr (by rintro ⟨_, ⟨⟩, _⟩)⟩

/-- With the ingress they are decrypted with its certificate. -/
theorem vault_decrypted :
    ¬ ∀ (cache : Cache) (root : Identity) (host : GatewayHost) (v : VirtualHostSpec) (tls : TlsSpec)
      (h : SecureHost), cache.gatewayHosts.find? root = some host → host.virtualHost = some v →
      v.tls = some tls → PassesOn tls →
      (Graph.build cache).host? Listener.secureRole v.domain = some (.secure h) →
      h.host.tcpProxy.isSome → ∀ config,
      ∀ chain ∈ ((Graph.build cache).snapshot config).filterChains,
        chain.serverNames = some [v.domain] → chain.transportSocket = none := by
  intro hall
  obtain ⟨h, clusters, attached, tcp, hcertificate⟩ := vault_attached.2
  have hsome : h.host.tcpProxy.isSome := by
    rw [tcp]
    rfl
  obtain ⟨chain, hmem, hserver⟩ := exists_chain_of_forwards attached tcp {}
  have hnone := hall _ ⟨"default", "vault"⟩ vaultRoot ⟨"vault.test", some passedOn, []⟩ passedOn h rfl
    rfl rfl passedOn_passesOn attached hsome {} chain hmem hserver
  -- the socket is made from the certificate that the ingress has given
  rw [(SecureHost.chained_of_chain? (chain?_of_serverNames attached hmem hserver)).2,
    Option.map_eq_none_iff] at hnone
  rw [hnone] at hcertificate
  cases hcertificate

end Build

end GatewayCompiler
