import GatewayCompiler.Proofs.Growth

/-!
# Where the secrets of a graph come from

A secret comes into a graph in four places: as the certificate of a host, which an ingress or a root
names, and as the authorities or the client certificate of a cluster, which an entry for a service
names.  The first two places ask whether the secret may be used from the namespace of the object.
The entries for services do not, so that their secrets are permitted only as far as the entries name
permitted ones.

## Main definitions

* `Brought` — a secret comes into the graph for an object of a namespace.
* `NamesPermitted` — an entry for a service names only secrets that may be used from its namespace.

## Main statements

* `accounted_of_visit` — the secrets of all clusters of a graph are accounted for.
* `brought_permitted_iff` — when all secrets are permitted.
* `brought_not_permitted` — a cache with a secret that is not.
-/

namespace GatewayCompiler.Build

section

variable {engine : Pattern.Engine} {cache : Cache}

/-! ### Accounts -/

/-- `Accounted cache c` says that the secrets of a cluster are accounted for: it has none, or it is
built for a service of a route that is served. -/
def Accounted [Pattern.Engine] (cache : Cache) (c : Cluster) : Prop :=
  (c.serverValidation = none ∧ c.clientCertificate = none) ∨
    ∃ offer s, Offered cache offer ∧ s ∈ offer.route.services ∧
      Builds cache offer.object.identity.space s c

/-- The routes of ingresses lead to backends without secrets. -/
theorem Attached.accounted {route : Route} (h : Attached cache route) :
    ∀ c ∈ route.clusters, Accounted cache c := by
  intro c hc
  cases h with
  | @entry offer _ offered made =>
    obtain ⟨found, hsub, hbuilt⟩ := made.clusters
    obtain ⟨s, hs, hbuilds⟩ := Builds.of_mem hbuilt hc
    exact .inr ⟨offer, s, offered, hsub.subset hs, hbuilds⟩
  | ingress =>
    rw [List.mem_singleton.mp hc]
    exact .inl ⟨rfl, rfl⟩

/-- Connections are forwarded without secrets. -/
theorem Forwards.accounted {space : String} {services : List ServiceSpec} {clusters : List Cluster}
    (h : Forwards cache space services clusters) : ∀ c ∈ clusters, Accounted cache c := by
  intro c hc
  obtain ⟨s, -, hof, htcp⟩ := h.of_mem hc
  refine .inl (hof.otherwise ?_)
  simp [Backend.protocol, htcp]

/-! ### The secrets of a graph -/

/-- A host over TLS of a graph has its certificate for some object, which `Certifies` it. -/
theorem certifies_of_host {name : String} {h : SecureHost} {secret : KeyMaterial}
    (hhost : (Graph.build cache).host? Listener.secureRole name = some (.secure h))
    (hsecret : h.certificate = some secret) : ∃ space, Certifies cache name secret space := by
  have hgraph : (Graph.build cache).host? Listener.secureRole name
      = (((buildAll cache).recordOrphans cache).secure.map Host.secure |>.find? name).filter
          Host.isRetained := Graph.host?_secure name
  rw [hgraph, Option.filter_eq_some_iff, OrderedMap.find?_map] at hhost
  obtain ⟨h', hfind, heq⟩ := Option.map_eq_some_iff.mp hhost.1
  cases heq
  exact ((recordOrphans_grown cache).secure name h hfind).certificate secret hsecret

/-- A cluster of a graph is `Accounted` for. -/
theorem accounted_of_visit {c : Cluster} (hc : .cluster c ∈ (Graph.build cache).visits) :
    Accounted cache c := by
  rcases attached_or_forwards_of_visit hc with ⟨route, hattached, hc⟩ | ⟨_, _, _, hforwards, hc⟩
  · exact hattached.accounted c hc
  · exact hforwards.accounted c hc

/-- The certificate of a host may be used from the namespace of the object that it is for. -/
theorem Certifies.permitted {name : String} {secret : KeyMaterial} {space : String}
    (h : Certifies cache name secret space) : cache.permits secret.identity space := by
  cases h with
  | @ingress i ingress tls found part grants =>
    obtain ⟨reference, -, hkeys, hpermits⟩ :=
      exists_of_grantedCertificate?
        (grants.found.holds (grantedKeypair?_result i.space tls).answers).symm
    rw [keypair?_identity hkeys]
    exact hpermits
  | @root root host v minVersion accepted domain =>
    obtain ⟨tls, -, hnames⟩ := rootMode_certificate accepted.mode
    obtain ⟨reference, -, -, hkeys, hpermits⟩ := hnames.reference
    rw [keypair?_identity hkeys]
    exact hpermits

/-- `Placed cache space s c` says that a cluster of the graph is built for a service that an object
of a namespace lists. -/
structure Placed [Pattern.Engine] (cache : Cache) (space : String) (s : ServiceSpec)
    (c : Cluster) : Prop where
  /-- The cluster is in the graph. -/
  visited : .cluster c ∈ (Graph.build cache).visits
  /-- An object of the namespace lists the service in a route that is served. -/
  offered : ∃ offer, Offered cache offer ∧ offer.object.identity.space = space ∧
    s ∈ offer.route.services
  /-- The cluster is built for the service. -/
  builds : Builds cache space s c

/-- `Brought cache space secret` says that a secret comes into the graph for an object of the
namespace `space`. -/
inductive Brought [Pattern.Engine] (cache : Cache) (space : String) (secret : KeyMaterial) : Prop
  /-- It is the certificate of a host. -/
  | certificate {name : String} {h : SecureHost}
      (host : (Graph.build cache).host? Listener.secureRole name = some (.secure h))
      (certificate : h.certificate = some secret) (certifies : Certifies cache name secret space)
  /-- The certificate of a service is verified with it. -/
  | ca {s : ServiceSpec} {c : Cluster} {validation : ServerValidation}
      (placed : Placed cache space s c) (verified : c.serverValidation = some validation)
      (ca : validation.ca = secret)
  /-- It is shown to a service. -/
  | client {s : ServiceSpec} {c : Cluster} (placed : Placed cache space s c)
      (certificate : c.clientCertificate = some secret)

/-- `InGraph g secret` says that a secret is in the graph, as the certificate of a host or with a
cluster. -/
inductive InGraph (g : Graph) (secret : KeyMaterial) : Prop
  /-- It is the certificate of a host. -/
  | certificate {name : String} {h : SecureHost}
      (host : g.host? Listener.secureRole name = some (.secure h))
      (certificate : h.certificate = some secret)
  /-- The certificate of a service is verified with it. -/
  | ca {c : Cluster} {validation : ServerValidation} (visited : .cluster c ∈ g.visits)
      (verified : c.serverValidation = some validation) (ca : validation.ca = secret)
  /-- It is shown to a service. -/
  | client {c : Cluster} (visited : .cluster c ∈ g.visits)
      (certificate : c.clientCertificate = some secret)

/-- `NamesPermitted cache space s` says that an entry for a service names only secrets that may be
used from its namespace. -/
structure NamesPermitted (cache : Cache) (space : String) (s : ServiceSpec) : Prop where
  /-- The certificate authorities. -/
  ca : ∀ spec, s.serverValidation = some spec →
    cache.permits (.ofReference spec.caSecret space) space
  /-- The certificate that is shown to the service. -/
  client : ∀ reference, s.clientSecret = some reference →
    cache.permits (.ofReference reference space) space

/-- A cluster with secrets is built for a service that some object lists. -/
theorem placed_of_accounted {c : Cluster} (hc : .cluster c ∈ (Graph.build cache).visits)
    (hsecret : c.serverValidation ≠ none ∨ c.clientCertificate ≠ none) :
    ∃ space s, Placed cache space s c := by
  rcases accounted_of_visit hc with ⟨hvalidation, hcertificate⟩ | ⟨offer, s, hoffer, hs, hbuilds⟩
  · rcases hsecret with hsecret | hsecret
    · exact absurd hvalidation hsecret
    · exact absurd hcertificate hsecret
  · exact ⟨_, s, hc, ⟨offer, hoffer, rfl, hs⟩, hbuilds⟩

/-- Every secret in the graph is `Brought` by some object. -/
theorem brought_of_inGraph {secret : KeyMaterial} (h : InGraph (Graph.build cache) secret) :
    ∃ space, Brought cache space secret := by
  cases h with
  | certificate host certificate =>
    obtain ⟨space, hcertifies⟩ := certifies_of_host host certificate
    exact ⟨space, .certificate host certificate hcertifies⟩
  | ca visited verified ca =>
    obtain ⟨space, s, hplaced⟩ := placed_of_accounted visited (.inl (by simp [verified]))
    exact ⟨space, .ca hplaced verified ca⟩
  | client visited certificate =>
    obtain ⟨space, s, hplaced⟩ := placed_of_accounted visited (.inr (by simp [certificate]))
    exact ⟨space, .client hplaced certificate⟩

/-- The authorities of a cluster are permitted if its entry names permitted secrets. -/
theorem NamesPermitted.permits_ca {space : String} {s : ServiceSpec}
    {validation : ServerValidation} (h : NamesPermitted cache space s)
    (hverifies : Verifies cache space s (some validation)) :
    cache.permits validation.ca.identity space := by
  unfold Verifies at hverifies
  cases hspec : s.serverValidation with
  | none =>
    rw [hspec] at hverifies
    cases hverifies
  | some spec =>
    rw [hspec] at hverifies
    obtain ⟨ca, hca, -, heq⟩ := hverifies
    cases heq
    rw [caBundle?_identity hca]
    exact h.ca spec hspec

/-- The client certificate of a cluster is permitted if its entry names permitted secrets. -/
theorem NamesPermitted.permits_client {space : String} {s : ServiceSpec} {secret : KeyMaterial}
    (h : NamesPermitted cache space s) (hpresents : Presents cache space s (some secret)) :
    cache.permits secret.identity space := by
  unfold Presents at hpresents
  cases hreference : s.clientSecret with
  | none =>
    rw [hreference] at hpresents
    cases hpresents
  | some reference =>
    rw [hreference] at hpresents
    obtain ⟨keys, hkeys, heq⟩ := hpresents
    cases heq
    rw [keypair?_identity hkeys]
    exact h.client reference hreference

/-- An entry names permitted secrets if the secrets that its cluster brings are permitted, as a
cluster over TLS has all secrets that its entry names. -/
theorem Placed.namesPermitted {space : String} {s : ServiceSpec} {c : Cluster}
    (h : Placed cache space s c) (htls : c.backend.protocol = .tls)
    (hall : ∀ secret, Brought cache space secret → cache.permits secret.identity space) :
    NamesPermitted cache space s := by
  obtain ⟨hverifies, hpresents⟩ := h.builds.clusterOf.overTls htls
  constructor
  -- a secret that is named was found, so the cluster brings it and it is covered by `hall`
  · intro spec hspec
    unfold Verifies at hverifies
    rw [hspec] at hverifies
    obtain ⟨ca, hca, -, hvalidation⟩ := hverifies
    have hpermits := hall ca (.ca h hvalidation rfl)
    rwa [caBundle?_identity hca] at hpermits
  · intro reference hreference
    unfold Presents at hpresents
    rw [hreference] at hpresents
    obtain ⟨keys, hkeys, hcertificate⟩ := hpresents
    have hpermits := hall keys (.client h hcertificate)
    rwa [keypair?_identity hkeys] at hpermits

/-- **Which secrets may be used.** Every secret in the graph is brought by some object.  The
certificates of hosts may always be used from the namespace of the object that brings them.  All
secrets may be used from there if and only if every entry for a service that has become a cluster
over TLS names only secrets that may be used from its namespace. -/
theorem brought_permitted_iff (cache : Cache) :
    (∀ secret, InGraph (Graph.build cache) secret → ∃ space, Brought cache space secret) ∧
    (∀ name secret space, Certifies cache name secret space →
      cache.permits secret.identity space) ∧
    ((∀ space secret, Brought cache space secret → cache.permits secret.identity space) ↔
      ∀ space s c, Placed cache space s c → c.backend.protocol = .tls →
        NamesPermitted cache space s) := by
  refine ⟨fun _ => brought_of_inGraph, fun _ _ _ => Certifies.permitted, ?_, ?_⟩
  · intro hall space s c hplaced htls
    exact hplaced.namesPermitted htls (hall space)
  · -- only a cluster over TLS has secrets, and they are the ones that its entry names
    intro hnames space secret hbrought
    cases hbrought with
    | certificate host certificate certifies => exact certifies.permitted
    | @ca s c validation placed verified ca =>
      have hof := placed.builds.clusterOf
      by_cases htls : c.backend.protocol = .tls
      · have hverifies := (hof.overTls htls).1
        rw [verified] at hverifies
        rw [← ca]
        exact (hnames space s c placed htls).permits_ca hverifies
      · rw [(hof.otherwise htls).1] at verified
        cases verified
    | @client s c placed certificate =>
      have hof := placed.builds.clusterOf
      by_cases htls : c.backend.protocol = .tls
      · have hpresents := (hof.overTls htls).2
        rw [certificate] at hpresents
        exact (hnames space s c placed htls).permits_client hpresents
      · rw [(hof.otherwise htls).2] at certificate
        cases certificate

end

/-! ### A secret of another namespace -/

/-- An entry for a service over TLS that names a secret of another namespace. -/
def borrowingEntry : ServiceSpec where
  name := "backend"
  number := 443
  weight := 1
  strategy := none
  protocol := some "tls"
  healthCheck := none
  serverValidation := none
  clientSecret := some "certs/client"
  filters := []

/-- A route to the service of `borrowingEntry`. -/
def borrowingRoute : RouteSpec where
  conditions := [⟨some "/", none, none⟩]
  services := [borrowingEntry]
  delegate := none
  websockets := false
  permitInsecure := false
  prefixReplacement := none
  retry := none
  timeout := none
  filters := []
  skipAuthorization := false

/-- A root with the route. -/
def borrowingRoot : GatewayHost where
  metadata := { name := some "site", space := some "default" }
  virtualHost := some ⟨"site.test", none, []⟩
  routes := [borrowingRoute]
  tcpProxy := none

/-- A cache in which a secret is used from another namespace, and there is no delegation. -/
def borrowingCache : Cache where
  gatewayHosts := .ofList [(⟨"default", "site"⟩, borrowingRoot)]
  services := .ofList [(⟨"default", "backend"⟩,
    ⟨{ name := some "backend", space := some "default" }, none, none, [⟨none, 443⟩]⟩)]
  secrets := .ofList [(⟨"certs", "client"⟩,
    ⟨{ name := some "client", space := some "certs" }, .ofList [("tls.crt", [1]), ("tls.key", [2])]⟩)]

/-- The secret that `borrowingEntry` names. -/
def borrowedSecret : KeyMaterial where
  identity := ⟨"certs", "client"⟩
  data := .ofList [("tls.crt", [1]), ("tls.key", [2])]

/-- The cluster that shows `borrowedSecret` to its service. -/
def borrowingCluster : Cluster where
  backend := ⟨{ service := ⟨"default", "backend"⟩, portName := none, portNumber := 443 }, .http .tls⟩
  weight := 1
  clientCertificate := some borrowedSecret
  sni := none

theorem borrowing_accepted :
    Accepted borrowingCache ⟨"default", "site"⟩ borrowingRoot ⟨"site.test", none, []⟩ .off :=
  ⟨rfl, rfl, rfl, rfl⟩

theorem borrowing_serveSteps :
    serveSteps borrowingCache ⟨"default", "site"⟩ borrowingRoot "site.test" =
      [.serve (hostRef ⟨"default", "site"⟩) borrowingRoute borrowingRoute.conditions,
        .accept ⟨"default", "site"⟩] :=
  routeSteps_of_single rfl rfl

theorem borrowing_buildAll : buildAll borrowingCache =
    (((sortHosts borrowingCache (addIngresses borrowingCache)).look
      (checkRoot borrowingCache ⟨"default", "site"⟩ ⟨"site.test", none, []⟩).run).2.openRoot
        borrowingCache ⟨"default", "site"⟩ borrowingRoot ⟨"site.test", none, []⟩ .off).takeAll
      borrowingCache ⟨"site.test", false⟩
      [.serve (hostRef ⟨"default", "site"⟩) borrowingRoute borrowingRoute.conditions,
        .accept ⟨"default", "site"⟩] := by
  rw [buildAll_of_single rfl borrowing_accepted]
  exact congrArg (fun steps => Building.takeAll borrowingCache ⟨"site.test", false⟩ steps _)
    borrowing_serveSteps

theorem borrowing_placed : Placed borrowingCache "default" borrowingEntry borrowingCluster where
  -- the cluster is what the graph is visited at last
  visited := by
    refine List.mem_of_getLast? ?_
    unfold Graph.build
    rw [borrowing_buildAll]
    rfl
  offered := ⟨_, .of_single borrowing_accepted rfl rfl rfl rfl, rfl,
    List.mem_singleton_self borrowingEntry⟩
  builds := ⟨[], {}, .empty, rfl⟩

/-- A client certificate of another namespace is shown to a service without any delegation. -/
theorem brought_not_permitted :
    ¬ ∀ space secret, Brought borrowingCache space secret →
      borrowingCache.permits secret.identity space := by
  intro hall
  have hpermits := hall "default" borrowedSecret (.client borrowing_placed rfl)
  exact absurd hpermits (by decide)

end GatewayCompiler.Build
