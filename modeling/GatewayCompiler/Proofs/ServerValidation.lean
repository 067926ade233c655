import GatewayCompiler.Proofs.Secrets
import GatewayCompiler.Render.Cluster

/-!
# The verification of services

An entry for a service can ask that the certificate of the service is verified.  The build looks at
what is asked for only where the service speaks `tls`, and there it makes no cluster unless the
authorities are found and a name is given.  A cluster that speaks `h2` is connected to over TLS as
well, and nothing is verified.

## Main definitions

* `Speaks` — the protocol that the service of an entry is spoken to in.
* `Yielded` — a build has a cluster for an entry.
* `VerifiesAs` — connections are made only to the service that an entry asks for.

## Main statements

* `socket_verifies_iff` — when the connections to a cluster are verified.
* `socket_unverified` — a cache with a cluster whose connections are not.
-/

namespace GatewayCompiler

open Proxy

/-- `socket.validation` is the verification that a side of a TLS connection makes. -/
def Proxy.TransportSocket.validation : TransportSocket → Option CertificateValidation
  | .client _ context | .server context => context.validation

/-- The connections to a cluster are made over TLS if its protocol says so, and then the certificate
is verified as the cluster says. -/
theorem Cluster.transportSocket_eq_some {c : Cluster} {config : ProxyConfig}
    {socket : TransportSocket} (h : (c.message config).transportSocket = some socket) :
    c.backend.protocol.usesTls ∧ socket.validation =
      c.serverValidation.map fun v => ⟨v.ca.caBundle, [.exact v.subjectName]⟩ := by
  unfold Cluster.message at h
  simp only at h
  split at h
  · next htls =>
    cases h
    exact ⟨htls, rfl⟩
  · cases h

theorem Protocol.usesTls_iff {p : Protocol} : p.usesTls ↔ p = .tls ∨ p = .h2 := by
  cases p <;> decide

namespace Build

variable {cache : Cache} {space : String} {s : ServiceSpec} {c : Cluster}

/-! ### The clusters of an entry -/

/-- `Speaks cache space s protocol` says that the service of an entry is spoken to in `protocol`:
the entry gives it, or else the annotations of the service give it to the port. -/
def Speaks (cache : Cache) (space : String) (s : ServiceSpec) (protocol : Protocol) : Prop :=
  ∃ given resolved, givenProtocol s = .ok given ∧
    PortOf cache ⟨space, s.name⟩ s.number resolved ∧ protocol = spokenProtocol given resolved

/-- `Yielded cache space s c` says that a build has the cluster `c` for an entry that an object of a
namespace lists. -/
inductive Yielded [Pattern.Engine] (cache : Cache) (space : String) (s : ServiceSpec)
    (c : Cluster) : Prop
  /-- The entry stands in a route that is served, and requests are sent to the cluster. -/
  | requests {offer : Offer} (offered : Offered cache offer)
      (home : offer.object.identity.space = space) (listed : s ∈ offer.route.services)
      (builds : Builds cache space s c)
  /-- The entry stands among those that connections are forwarded to. -/
  | connections {services : List ServiceSpec} {clusters : List Cluster}
      (forwards : Forwards cache space services clusters) (pair : (s, c) ∈ services.zip clusters)

theorem Builds.speaks (h : Builds cache space s c) : Speaks cache space s c.backend.protocol := by
  obtain ⟨given, resolved, hgiven, hof, hbackend⟩ := h.backend
  refine ⟨given, resolved, hgiven, hof, ?_⟩
  rw [hbackend]
  rfl

/-- Connections are forwarded in plain text. -/
theorem Forwards.plaintext {services : List ServiceSpec} {clusters : List Cluster}
    (h : Forwards cache space services clusters) (hpair : (s, c) ∈ services.zip clusters) :
    c.backend.protocol = .plaintext := by
  obtain ⟨-, htcp⟩ := (List.forall₂_iff_zip.mp h.clusters).2 hpair
  simp [Backend.protocol, htcp]

/-- Only a cluster that requests are sent to can be connected to over TLS, and such a cluster
`Builds`. -/
theorem Yielded.builds [Pattern.Engine] (h : Yielded cache space s c)
    (htls : c.backend.protocol.usesTls) :
    Builds cache space s c := by
  cases h with
  | requests offered home listed builds => exact builds
  | connections forwards pair =>
    rw [forwards.plaintext pair] at htls
    cases htls

/-! ### Verified connections -/

/-- `VerifiesAs cache space spec socket` says that connections are made only to a service whose
certificate is signed by the authorities that an entry names, and has the name that it gives. -/
def VerifiesAs (cache : Cache) (space : String) (spec : ServerValidationSpec)
    (socket : TransportSocket) : Prop :=
  ∃ ca, cache.caBundle? (.ofReference spec.caSecret space) = some ca ∧
    socket.validation = some ⟨ca.caBundle, [.exact spec.subjectName]⟩

/-- **Which services are verified.** If an entry asks that its service is verified, and the
connections to its cluster are made over TLS, then the service speaks `tls` or `h2`.  The
connections are verified as the entry asks for if and only if it speaks `tls`, and they are not
verified at all if and only if it speaks `h2`. -/
theorem socket_verifies_iff [Pattern.Engine] {spec : ServerValidationSpec} {socket : TransportSocket}
    (config : ProxyConfig) (yielded : Yielded cache space s c)
    (asks : s.serverValidation = some spec)
    (overTls : (c.message config).transportSocket = some socket) :
    Speaks cache space s c.backend.protocol ∧
      (c.backend.protocol = .tls ∨ c.backend.protocol = .h2) ∧
      (VerifiesAs cache space spec socket ↔ c.backend.protocol = .tls) ∧
      (socket.validation = none ↔ c.backend.protocol = .h2) := by
  obtain ⟨htls, hvalidation⟩ := Cluster.transportSocket_eq_some overTls
  have hbuilds := yielded.builds htls
  refine ⟨hbuilds.speaks, Protocol.usesTls_iff.mp htls, ?_⟩
  rcases Protocol.usesTls_iff.mp htls with hprotocol | hprotocol
  · -- the build fails unless it finds what the entry asks for
    have hverifies := (hbuilds.clusterOf.overTls hprotocol).1
    rw [Verifies, asks] at hverifies
    obtain ⟨ca, hca, -, hserver⟩ := hverifies
    rw [hserver] at hvalidation
    have hasked : VerifiesAs cache space spec socket := ⟨ca, hca, hvalidation⟩
    simp [hasked, hprotocol, hvalidation]
  · -- the build has not looked at what the entry asks for
    have hserver := (hbuilds.clusterOf.otherwise (by simp [hprotocol])).1
    rw [hserver] at hvalidation
    have hnone : socket.validation = none := hvalidation
    simp [VerifiesAs, hprotocol, hnone]

/-! ### A service that is to be verified -/

/-- What an entry asks for. -/
def verifyingSpec : ServerValidationSpec := ⟨"ca", "backend.test"⟩

/-- An entry with `verifyingSpec` that is spoken to in a given protocol. -/
def verifyingEntry (protocol : String) : ServiceSpec :=
  { borrowingEntry with
    protocol := some protocol, serverValidation := some verifyingSpec, clientSecret := none }

/-- A route to the service. -/
def verifyingRoute (protocol : String) : RouteSpec :=
  { borrowingRoute with services := [verifyingEntry protocol] }

/-- A root with the route. -/
def verifyingRoot (protocol : String) : GatewayHost :=
  { borrowingRoot with routes := [verifyingRoute protocol] }

/-- A cache with the root, the service and the authorities. -/
def verifyingCache (protocol : String) : Cache where
  gatewayHosts := .ofList [(⟨"default", "site"⟩, verifyingRoot protocol)]
  services := borrowingCache.services
  secrets := .ofList [(⟨"default", "ca"⟩,
    ⟨{ name := some "ca", space := some "default" }, .ofList [("ca.crt", [1])]⟩)]

/-- The cluster without verification. -/
def verifyingCluster (protocol : Protocol) : Cluster where
  backend := { borrowingCluster.backend with transport := .http protocol }
  weight := 1
  sni := none

/-- The verification that `verifyingSpec` asks for. -/
def verifyingValidation : ServerValidation where
  ca := ⟨⟨"default", "ca"⟩, .ofList [("ca.crt", [1])]⟩
  subjectName := "backend.test"

theorem verifying_accepted (protocol : String) : Accepted (verifyingCache protocol)
    ⟨"default", "site"⟩ (verifyingRoot protocol) ⟨"site.test", none, []⟩ .off where
  found := OrderedMap.find?_insert_self .empty _ _
  virtualHost := rfl
  alone := rfl
  mode := rfl

/-- The route is served, so that each cluster that is built for the entry is one of a build. -/
theorem verifying_yielded [Pattern.Engine] {protocol : String} {c : Cluster}
    (h : Builds (verifyingCache protocol) "default" (verifyingEntry protocol) c) :
    Yielded (verifyingCache protocol) "default" (verifyingEntry protocol) c := by
  have hoffered := Offered.of_single (verifying_accepted protocol) rfl rfl rfl rfl
  exact .requests hoffered rfl (List.mem_singleton_self _) h

/-- A service that speaks `tls` is verified. -/
theorem socket_verifies_tls :
    Yielded (verifyingCache "tls") "default" (verifyingEntry "tls")
        { verifyingCluster .tls with serverValidation := some verifyingValidation } ∧
      VerifiesAs (verifyingCache "tls") "default" verifyingSpec
        (.client "" (Cluster.tlsContext
          { verifyingCluster .tls with serverValidation := some verifyingValidation })) := by
  have hyielded : Yielded (verifyingCache "tls") "default" (verifyingEntry "tls")
      { verifyingCluster .tls with serverValidation := some verifyingValidation } :=
    verifying_yielded ⟨[], {}, .empty, rfl⟩
  exact ⟨hyielded, (socket_verifies_iff {} hyielded rfl rfl).2.2.1.mpr rfl⟩

theorem verifying_walkSteps [Pattern.Engine] (protocol : String) : walkSteps (verifyingCache protocol)
    ⟨"default", "site"⟩ (verifyingRoot protocol) "site.test" .off =
      [.serve (hostRef ⟨"default", "site"⟩) (verifyingRoute protocol)
        (verifyingRoute protocol).conditions, .accept ⟨"default", "site"⟩] :=
  routeSteps_of_single rfl rfl

/-- The cluster for a service that speaks `h2` is in the graph. -/
theorem verifying_visited [Pattern.Engine] :
    .cluster (verifyingCluster .h2) ∈ (Graph.build (verifyingCache "h2")).visits := by
  refine List.mem_of_getLast? ?_
  unfold Graph.build
  have hsteps : walkSteps (verifyingCache "h2") ⟨"default", "site"⟩ (verifyingRoot "h2")
      (VirtualHostSpec.mk "site.test" none []).domain .off = _ := verifying_walkSteps "h2"
  rw [buildAll_of_single rfl (verifying_accepted "h2"), hsteps]
  rfl

/-- The connections to a service that speaks `h2` are made over TLS, and they are not verified. -/
theorem socket_unverified :
    ¬ ∀ (cache : Cache) (space : String) (s : ServiceSpec) (spec : ServerValidationSpec)
        (c : Cluster) (config : ProxyConfig) (socket : TransportSocket),
      Yielded cache space s c → .cluster c ∈ (Graph.build cache).visits →
      s.serverValidation = some spec → (c.message config).transportSocket = some socket →
        VerifiesAs cache space spec socket := by
  intro hall
  have hyielded : Yielded (verifyingCache "h2") "default" (verifyingEntry "h2")
      (verifyingCluster .h2) := verifying_yielded ⟨[], {}, .empty, rfl⟩
  obtain ⟨ca, -, hvalidation⟩ := hall _ _ _ _ _ {} _ hyielded verifying_visited rfl rfl
  cases hvalidation

end Build

end GatewayCompiler
