import GatewayCompiler.Build.Cluster
import GatewayCompiler.Proofs.Lookup
import Mathlib.Data.List.Forall2

/-!
# What clusters and routes are made of

## Main definitions

* `ClusterOf` — a cluster has what a service of a namespace asks for.
* `ValidationResult`, `CertificateResult` — what the secrets of a service come to.
* `MadeFor` — all that is known of the cluster of a service.
* `Builds`, `Unbuilt` — a cluster is built for a service of a namespace, or none is.
* `RouteOf` — a route is made from an entry under some conditions.
* `RouteResult` — what an entry comes to, by what its services come to.

## Main statements

* `buildValidation_result`, `buildClientCertificate_result` — the secrets of services.
* `buildCluster_answers`, `buildClusters_answers` — the clusters of services.
* `buildRoute_answers`, `buildRoute_filters` — the route of an entry and its filters.
* `buildRoute_unbuilt` — an entry makes no route only if no cluster is built for it.
-/

namespace GatewayCompiler.Build

variable {cache : Cache}

/-! ### Clusters -/

/-- `Verifies cache space s validation` says that `validation` is how the service `s` asks for the
certificate of its endpoints to be verified: not at all, or with the authority that its secret in
`cache` holds. -/
def Verifies (cache : Cache) (space : String) (s : ServiceSpec)
    (validation : Option ServerValidation) : Prop :=
  match s.serverValidation with
  | none => validation = none
  | some spec => ∃ ca, cache.caBundle? (.ofReference spec.caSecret space) = some ca ∧
      ¬ Text.isBlankText spec.subjectName ∧ validation = some ⟨ca, spec.subjectName⟩

/-- `Presents cache space s keys` says that `keys` is the certificate that `s` asks to be shown to
its endpoints: none, or the one that its secret in `cache` holds. -/
def Presents (cache : Cache) (space : String) (s : ServiceSpec) (keys : Option KeyMaterial) : Prop :=
  match s.clientSecret with
  | none => keys = none
  | some reference => ∃ found,
      cache.keypair? (.ofReference reference space) = some found ∧ keys = some found

/-- `ClusterOf cache space s c` says that `c` has what the service `s` of a namespace asks for: it
points at a port of the service, and it has the secrets that `s` names if it speaks TLS, and no
secrets otherwise. -/
structure ClusterOf (cache : Cache) (space : String) (s : ServiceSpec) (c : Cluster) : Prop where
  /-- The backend is a port of the service. -/
  backend : ∃ resolved, PortOf cache ⟨space, s.name⟩ s.number resolved ∧
    c.backend.target = resolved.target
  /-- A backend that speaks TLS gets what the service asks for. -/
  overTls : c.backend.protocol = .tls →
    Verifies cache space s c.serverValidation ∧ Presents cache space s c.clientCertificate
  /-- Other backends get no secrets. -/
  otherwise : c.backend.protocol ≠ .tls → c.serverValidation = none ∧ c.clientCertificate = none

namespace ClusterOf

variable {space : String} {s : ServiceSpec} {c : Cluster}

/-- The cluster points at the service that it is made for. -/
theorem service (h : ClusterOf cache space s c) : c.backend.target.service = ⟨space, s.name⟩ := by
  obtain ⟨resolved, ⟨service, port, -, -, -, rfl⟩, htarget⟩ := h.backend
  rw [htarget]
  rfl

/-- The cluster points at a service that `cache` has. -/
theorem cached (h : ClusterOf cache space s c) : cache.services.contains ⟨space, s.name⟩ := by
  obtain ⟨resolved, ⟨service, port, hfound, -, -, rfl⟩, -⟩ := h.backend
  exact OrderedMap.contains_eq_true_iff.mpr ⟨service, hfound⟩

end ClusterOf

/-- `ValidationResult cache space s result` says that `result` is how the service `s` asks for the
certificate of its endpoints to be verified, or a problem with it. -/
inductive ValidationResult (cache : Cache) (space : String) (s : ServiceSpec) :
    Except Problem (Option ServerValidation) → Prop
  /-- Nothing is wrong with it. -/
  | made {validation : Option ServerValidation} (verifies : Verifies cache space s validation) :
      ValidationResult cache space s (.ok validation)
  /-- The secret is missing, or it holds no authorities. -/
  | badCa (secret : Identity) :
      ValidationResult cache space s (.error (.badCa s.name s.number secret))
  /-- The name that the certificate has to carry is blank. -/
  | noSubject : ValidationResult cache space s (.error (.noSubject s.name s.number))

theorem buildValidation_result (space : String) (s : ServiceSpec) :
    OneSecret cache (ValidationResult cache space s) (buildValidation cache space s).run := by
  unfold buildValidation
  cases hasks : s.serverValidation with
  | none => exact .answered (.made (by rw [Verifies, hasks]))
  | some spec =>
    refine .filteredLift _ KeyMaterial.hasCaBundle fun found => ?_
    -- a secret that is missing or has no authorities is a problem
    cases found with
    | none => exact ⟨_, rfl, fun _ => .badCa _⟩
    | some ca =>
      simp only
      split
      · exact ⟨_, rfl, fun _ => .noSubject⟩
      · next hsubject =>
        refine ⟨_, rfl, fun hfound => .made ?_⟩
        rw [Verifies, hasks]
        exact ⟨ca, hfound.symm, hsubject, rfl⟩

/-- `CertificateResult cache space s result` says that `result` is the certificate that `s` asks to
be shown to its endpoints, or a problem with it. -/
inductive CertificateResult (cache : Cache) (space : String) (s : ServiceSpec) :
    Except Problem (Option KeyMaterial) → Prop
  /-- Nothing is wrong with it. -/
  | made {keys : Option KeyMaterial} (presents : Presents cache space s keys) :
      CertificateResult cache space s (.ok keys)
  /-- The secret is missing, or it holds no certificate with its key. -/
  | badSecret (secret : Identity) :
      CertificateResult cache space s (.error (.badClientSecret s.name s.number secret))

theorem buildClientCertificate_result (space : String) (s : ServiceSpec) :
    OneSecret cache (CertificateResult cache space s)
      (buildClientCertificate cache space s).run := by
  unfold buildClientCertificate
  cases hasks : s.clientSecret with
  | none => exact .answered (.made (by rw [Presents, hasks]))
  | some reference =>
    refine .filteredLift _ KeyMaterial.hasKeypair fun found => ?_
    cases found with
    | none => exact ⟨_, rfl, fun _ => .badSecret _⟩
    | some keys =>
      refine ⟨_, rfl, fun hfound => .made ?_⟩
      rw [Presents, hasks]
      exact ⟨keys, hfound.symm, rfl⟩

/-- All that is known of the result of `buildCluster`: beside `ClusterOf`, the cluster is spoken to
in the protocol that `s` is given or that its port is annotated with, and the `problems` are those
with its filters. -/
structure MadeFor (cache : Cache) (space : String) (s : ServiceSpec) (c : Cluster)
    (problems : List Problem) : Prop extends ClusterOf cache space s c where
  /-- The backend is a port of the service, in a protocol. -/
  spoken : ∃ given resolved, givenProtocol s = .ok given ∧
    PortOf cache ⟨space, s.name⟩ s.number resolved ∧
      c.backend = ⟨resolved.target, .http (spokenProtocol given resolved)⟩
  /-- The filters are those that the service refers to. -/
  filters : (c.filters, problems) = resolveFilters cache .cluster space s.filters

/-- What `buildCluster` answers is made for the service.  The memo of ports that it is run with does
not matter, as long as it is sound. -/
theorem buildCluster_answers (space : String) (s : ServiceSpec) :
    Answers cache (buildCluster cache space s).run fun result =>
      ∀ cluster problems, result = .ok (cluster, problems) →
        MadeFor cache space s cluster problems := by
  unfold buildCluster
  refine .bindExcept (fun _ _ => ?_) (by rintro _ _ _ _ ⟨⟩)
  refine .bindExcept (fun given hgiven => ?_) (by rintro _ _ _ _ ⟨⟩)
  refine (lookupBackend_answers _ _ _).bindLift fun found hfound => ?_
  -- the port is the one that the cache has under the number, whether remembered or not
  cases h : findPort? cache ⟨space, s.name⟩ (.number s.number) with
  | none =>
    rw [h] at hfound
    subst hfound
    exact .pure (by rintro _ _ ⟨⟩)
  | some p =>
    rw [h] at hfound
    obtain ⟨resolved, hof, rfl⟩ := hfound
    rw [findPort?_number h] at hof
    simp only
    split
    -- only over TLS are the secrets looked up, and then both of them have to be there
    · next htls =>
      refine (buildValidation_result space s).answers.bindAttempt (fun validation hvalidation => ?_)
        (by rintro _ _ _ _ ⟨⟩)
      refine (buildClientCertificate_result space s).answers.bindAttempt (fun keys hkeys => ?_)
        (by rintro _ _ _ _ ⟨⟩)
      obtain ⟨hverifies⟩ := hvalidation
      obtain ⟨hpresents⟩ := hkeys
      refine .pure ?_
      rintro cluster problems ⟨⟩
      exact ⟨⟨⟨resolved, hof, rfl⟩, fun _ => ⟨hverifies, hpresents⟩,
        fun hother => absurd htls hother⟩, ⟨given, resolved, hgiven, hof, rfl⟩, rfl⟩
    · next htls =>
      refine .pure ?_
      rintro cluster problems ⟨⟩
      exact ⟨⟨⟨resolved, hof, rfl⟩, fun hover => absurd hover htls, fun _ => ⟨rfl, rfl⟩⟩,
        ⟨given, resolved, hgiven, hof, rfl⟩, rfl⟩

/-- What stands on one side of a pairing has a partner. -/
theorem exists_mem_zip {α β : Type} {xs : List α} {ys : List β} (hlength : xs.length = ys.length)
    {y : β} (hy : y ∈ ys) : ∃ x, (x, y) ∈ xs.zip ys := by
  rw [← List.map_snd_zip (Nat.le_of_eq hlength.symm)] at hy
  obtain ⟨⟨x, y⟩, hmem, rfl⟩ := List.mem_map.mp hy
  exact ⟨x, hmem⟩

/-- `Builds cache space s c` says that `c` is a cluster that is built for the service `s` of a
namespace, by some run of `buildCluster`. -/
def Builds (cache : Cache) (space : String) (s : ServiceSpec) (c : Cluster) : Prop :=
  ∃ problems, Yields cache (buildCluster cache space s).run (.ok (c, problems))

/-- `Unbuilt cache space s` says that no cluster is built for the service `s`: the attempt of
`buildCluster` ends with a problem. -/
def Unbuilt (cache : Cache) (space : String) (s : ServiceSpec) : Prop :=
  ∃ problem, Yields cache (buildCluster cache space s).run (.error problem)

namespace Builds

variable {space : String} {s : ServiceSpec} {c : Cluster}

theorem made (h : Builds cache space s c) : ∃ problems, MadeFor cache space s c problems := by
  obtain ⟨problems, hyields⟩ := h
  exact ⟨problems, hyields.holds (buildCluster_answers space s) c problems rfl⟩

theorem clusterOf (h : Builds cache space s c) : ClusterOf cache space s c := by
  obtain ⟨problems, hmade⟩ := h.made
  exact hmade.toClusterOf

theorem backend (h : Builds cache space s c) : ∃ given resolved,
    givenProtocol s = .ok given ∧ PortOf cache ⟨space, s.name⟩ s.number resolved ∧
      c.backend = ⟨resolved.target, .http (spokenProtocol given resolved)⟩ := by
  obtain ⟨problems, hmade⟩ := h.made
  exact hmade.spoken

theorem filters (h : Builds cache space s c) :
    c.filters = (resolveFilters cache .cluster space s.filters).1 := by
  obtain ⟨problems, hmade⟩ := h.made
  exact congrArg Prod.fst hmade.filters

/-- Requests are sent to every cluster that is built for a service: its transport is HTTP and never
raw TCP. -/
theorem http (h : Builds cache space s c) : ∃ protocol, c.backend.transport = .http protocol := by
  obtain ⟨given, resolved, -, -, hbackend⟩ := h.backend
  exact ⟨_, congrArg Backend.transport hbackend⟩

/-- Every one of the clusters for the services `found` is built for one of them. -/
theorem of_mem {found : List ServiceSpec} {clusters : List Cluster}
    (h : List.Forall₂ (Builds cache space) found clusters) (hc : c ∈ clusters) :
    ∃ s ∈ found, Builds cache space s c := by
  obtain ⟨s, hpair⟩ := exists_mem_zip h.length_eq hc
  exact ⟨s, (List.of_mem_zip hpair).1, (List.forall₂_iff_zip.mp h).2 hpair⟩

end Builds

/-- The clusters for services: each is built for one of them, in their order.  The services `found`
that have a cluster are a sublist of all of them. -/
theorem buildClusters_answers (space : String) (services : List ServiceSpec) :
    Answers cache (buildClusters cache space services) fun result =>
      ∃ found, found.Sublist services ∧ List.Forall₂ (Builds cache space) found result.1 := by
  induction services with
  | nil => exact .pure ⟨[], .refl _, .nil⟩
  | cons s rest ih =>
    rw [buildClusters]
    refine (buildCluster_answers space s).yields.bind fun built hbuilt => ?_
    refine ih.bind fun result hresult => ?_
    obtain ⟨found, hsub, hall⟩ := hresult
    cases built with
    | ok made => exact .pure ⟨s :: found, hsub.cons_cons s, .cons ⟨made.2, hbuilt⟩ hall⟩
    | error problem => exact .pure ⟨found, hsub.cons s, hall⟩

/-- When `buildClusters` answers with no clusters, every one of the services is `Unbuilt`. -/
theorem buildClusters_unbuilt (space : String) (services : List ServiceSpec) :
    Answers cache (buildClusters cache space services) fun result =>
      result.1 = [] → ∀ s ∈ services, Unbuilt cache space s := by
  induction services with
  | nil => exact .pure fun _ s hs => absurd hs List.not_mem_nil
  | cons s rest ih =>
    rw [buildClusters]
    refine (buildCluster_answers space s).yields.bind fun built hbuilt => ?_
    refine ih.bind fun result hresult => ?_
    cases built with
    | ok made => exact .pure fun hnone => absurd hnone (List.cons_ne_nil _ _)
    | error problem =>
      exact .pure fun hnone => List.forall_mem_cons.mpr ⟨⟨problem, hbuilt⟩, hresult hnone⟩

/-! ### Routes -/

/-- `RouteOf cache space spec conditions route` says that `route` is made from the entry `spec`
under `conditions`: it has a cluster at least, and each of its clusters is built for one of the
services of `spec`, in their order. -/
structure RouteOf (cache : Cache) (space : String) (spec : RouteSpec) (conditions : List Condition)
    (route : Route) : Prop where
  /-- The tests and the settings are those of the entry. -/
  shape : ∃ filters, route = routeOf spec conditions filters route.clusters
  /-- The clusters are built for services of the entry. -/
  clusters : ∃ found, found.Sublist spec.services ∧
    List.Forall₂ (Builds cache space) found route.clusters
  /-- There is a cluster. -/
  nonempty : route.clusters ≠ []

/-- `RouteResult cache space spec conditions Q made` says why `buildRoute` makes `made` of the entry
`spec`, where `Q` describes what the services of the entry come to. -/
inductive RouteResult (cache : Cache) (space : String) (spec : RouteSpec)
    (conditions : List Condition) (Q : List Cluster × List Problem → Prop) : Option Route → Prop
  /-- The entry has no services. -/
  | unserved (services : spec.services = []) : RouteResult cache space spec conditions Q none
  /-- None of the services has a cluster. -/
  | dropped {problems : List Problem} (clusters : Q ([], problems)) :
      RouteResult cache space spec conditions Q none
  /-- The route has the clusters of the services, and the filters of the entry. -/
  | made {clusters : List Cluster} {problems : List Problem} (nonempty : clusters ≠ [])
      (holds : Q (clusters, problems)) :
      RouteResult cache space spec conditions Q (some (routeOf spec conditions
        (resolveFilters cache .route space spec.filters).1 clusters))

theorem buildRoute_result {space : String} {spec : RouteSpec}
    {Q : List Cluster × List Problem → Prop}
    (hclusters : Answers cache (buildClusters cache space spec.services) Q)
    (conditions : List Condition) :
    Answers cache (buildRoute cache space spec conditions) fun result =>
      RouteResult cache space spec conditions Q result.1 := by
  unfold buildRoute
  split
  · next hnone => exact .pure (.unserved hnone)
  · simp only
    refine hclusters.bind fun result hresult => .pure ?_
    obtain ⟨clusters, problems⟩ := result
    cases clusters with
    | nil => exact .dropped hresult
    | cons c clusters => exact .made (List.cons_ne_nil _ _) hresult

/-- The route that `buildRoute` makes of an entry is a `RouteOf` it. -/
theorem buildRoute_answers (space : String) (spec : RouteSpec) (conditions : List Condition) :
    Answers cache (buildRoute cache space spec conditions) fun result =>
      ∀ route, result.1 = some route → RouteOf cache space spec conditions route := by
  refine (buildRoute_result (buildClusters_answers space spec.services) conditions).mono ?_
  rintro ⟨_, _⟩ hresult route ⟨⟩
  cases hresult with
  | made nonempty holds => exact ⟨⟨_, rfl⟩, holds, nonempty⟩

/-- An entry without services makes no route, and an entry with services makes none only if no cluster
is built for any of them. -/
theorem buildRoute_unbuilt (space : String) (spec : RouteSpec) (conditions : List Condition) :
    Answers cache (buildRoute cache space spec conditions) fun result =>
      result.1 = none → ∀ s ∈ spec.services, Unbuilt cache space s := by
  refine (buildRoute_result (buildClusters_unbuilt space spec.services) conditions).mono ?_
  rintro ⟨_, _⟩ hresult ⟨⟩ s hs
  cases hresult with
  | unserved services =>
    rw [services] at hs
    cases hs
  | dropped clusters => exact clusters rfl s hs

/-- The filters of a route are those that `resolveFilters` finds for the references of its entry. -/
theorem buildRoute_filters (space : String) (spec : RouteSpec) (conditions : List Condition) :
    Answers cache (buildRoute cache space spec conditions) fun result =>
      ∀ route, result.1 = some route →
        route.filters = (resolveFilters cache .route space spec.filters).1 := by
  refine (buildRoute_result (buildClusters_answers space spec.services) conditions).mono ?_
  rintro ⟨_, _⟩ hresult route ⟨⟩
  cases hresult with
  | made nonempty holds => rfl

end GatewayCompiler.Build
