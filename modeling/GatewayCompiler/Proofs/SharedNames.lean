import GatewayCompiler.Proofs.ClusterNames
import GatewayCompiler.Proofs.Ports
import GatewayCompiler.Proofs.Secrets
import GatewayCompiler.Proofs.Snapshot

/-!
# Clusters that share a name

Of the clusters of a graph with the same name only the first one becomes a message.  Nothing is lost
as long as the others would become the same message.  A name tells nearly everything that the message
is made of, and what it does not tell is fixed by the service and its port: a port is resolved once
in a build, and a secret is what the cache holds under its identity.  What remains are the free texts,
which are joined without regard to the separator.

## Main definitions

* `Agree` — what two clusters with the same name may differ in.
* `Cluster.Regular`, `Stored` — what holds of the clusters of a build besides.
* `checkedCache` — a cache in which a service is checked in two ways.

## Main statements

* `message_eq_iff` — clusters with the same name become the same message if and only if they agree.
* `Graph.clusters_kept_iff` — when the message of every cluster is kept.
* `agree_of_tidy` — tidy clusters of a build with the same name agree.
* `build_clusters_kept` — what holds of the clusters of a build with the same name.
* `alias_not_same` — a cache with clusters that share a name and differ.
-/

namespace GatewayCompiler

open Proxy

/-! ### Messages -/

/-- `t.told` is what the message of a cluster tells of its port. -/
def BackendTarget.told (t : BackendTarget) :
    String × Discovery × Option (List CircuitBreaker) :=
  (s!"{t.service.space}_{t.service.name}_{t.portNumber}", t.discovery, t.limits.breakers)

/-- `Agree a b` says that two clusters agree in what clusters with the same name may differ in. -/
structure Agree (a b : Cluster) : Prop where
  /-- What the messages tell of the ports. -/
  target : a.backend.target.told = b.backend.target.told
  /-- The path of the health check. -/
  path : a.healthCheck.map (·.path) = b.healthCheck.map (·.path)
  /-- The host header of the health check. -/
  host : a.healthCheck.map (·.message.host) = b.healthCheck.map (·.message.host)
  /-- How the certificate of the service is verified. -/
  validation : a.serverValidation.map (fun v => (v.ca.caBundle, v.subjectName))
    = b.serverValidation.map fun v => (v.ca.caBundle, v.subjectName)
  /-- The certificate that is shown to the service. -/
  certificate : a.clientCertificate.map KeyMaterial.messageName
    = b.clientCertificate.map KeyMaterial.messageName

/-- `c.Regular` says that a cluster has secrets only over TLS, and its server name is the one of its
port. -/
structure Cluster.Regular (c : Cluster) : Prop where
  /-- The server name. -/
  sni : c.sni = c.backend.target.externalName
  /-- The secrets. -/
  secrets : c.backend.protocol ≠ .tls → c.serverValidation = none ∧ c.clientCertificate = none

/-- The server name of a regular cluster is told with its port. -/
theorem sni_eq_of_told_eq {a b : Cluster} (ha : a.Regular) (hb : b.Regular)
    (h : a.backend.target.told = b.backend.target.told) : a.sni = b.sni := by
  -- a name for TLS is given to external services only, and discovery tells their host
  have hdiscovery : a.backend.target.discovery = b.backend.target.discovery :=
    congrArg (fun t => t.2.1) h
  rw [ha.sni, hb.sni]
  unfold BackendTarget.discovery at hdiscovery
  cases hhost : a.backend.target.externalName with
  | none =>
    cases hhost' : b.backend.target.externalName with
    | none => rfl
    | some host' => simp [hhost, hhost'] at hdiscovery
  | some host =>
    cases hhost' : b.backend.target.externalName with
    | none => simp [hhost, hhost'] at hdiscovery
    | some host' =>
      simp only [hhost, hhost', Discovery.dns.injEq] at hdiscovery
      rw [hdiscovery.1]

/-- The number of seconds in a message is fixed by the number in a name, which does not go below
zero. -/
theorem HealthCheck.secondsOr_eq {seconds seconds' : Int} (h : max seconds 0 = max seconds' 0)
    (usual : Nat) : secondsOr seconds usual = secondsOr seconds' usual := by
  unfold secondsOr
  by_cases hpositive : 0 < seconds
  · have heq : seconds = seconds' := by omega
    rw [heq]
  · have hpositive' : ¬ 0 < seconds' := by omega
    rw [if_neg hpositive, if_neg hpositive']

/-- The message of a health check is made of its numbers, its path and its host header. -/
theorem HealthCheck.message_eq_iff {h h' : HealthCheck} (hnumbers : h.numbers = h'.numbers) :
    h.message = h'.message ↔ h.path = h'.path ∧ h.message.host = h'.message.host := by
  constructor
  · intro heq
    exact ⟨congrArg HealthCheckMessage.path heq, congrArg HealthCheckMessage.host heq⟩
  · rintro ⟨hpath, hhost⟩
    unfold HealthCheck.numbers at hnumbers
    simp only [Prod.mk.injEq] at hnumbers
    obtain ⟨htimeout, hinterval, hunhealthy, hhealthy⟩ := hnumbers
    rw [HealthCheckMessage.mk.injEq]
    exact ⟨secondsOr_eq htimeout 2, secondsOr_eq hinterval 10,
      congrArg (fun n => if 0 < n then n else 3) hunhealthy,
      congrArg (fun n => if 0 < n then n else 2) hhealthy, hhost, hpath⟩

/-- The health checks in the messages of two clusters, whose `numbers` are the same. -/
theorem healthChecks_eq_iff {o o' : Option HealthCheck}
    (hnumbers : o.map HealthCheck.numbers = o'.map HealthCheck.numbers) :
    o.toList.map HealthCheck.message = o'.toList.map HealthCheck.message ↔
      o.map (·.path) = o'.map (·.path) ∧ o.map (·.message.host) = o'.map (·.message.host) := by
  cases o with
  | none =>
    cases o' with
    | none => exact ⟨fun _ => ⟨rfl, rfl⟩, fun _ => rfl⟩
    | some h' => cases hnumbers
  | some h =>
    cases o' with
    | none => cases hnumbers
    | some h' =>
      have hmessage := HealthCheck.message_eq_iff (Option.some.inj hnumbers)
      simpa only [Option.toList_some, List.map_cons, List.map_nil, List.cons.injEq, and_true,
        Option.map_some, Option.some.injEq] using hmessage

variable {a b : Cluster}

/-- The TLS settings in the messages of two clusters, whose protocols and server names are the
same. -/
theorem transportSocket_eq_iff (config : ProxyConfig) (ha : a.Regular) (hb : b.Regular)
    (hprotocol : a.backend.protocol = b.backend.protocol) (hsni : a.sni = b.sni) :
    (a.message config).transportSocket = (b.message config).transportSocket ↔
      a.serverValidation.map (fun v => (v.ca.caBundle, v.subjectName))
          = b.serverValidation.map (fun v => (v.ca.caBundle, v.subjectName)) ∧
        a.clientCertificate.map KeyMaterial.messageName
          = b.clientCertificate.map KeyMaterial.messageName := by
  by_cases htls : a.backend.protocol = .tls
  · have hvalidation : a.serverValidation.map (fun v =>
        (⟨v.ca.caBundle, [.exact v.subjectName]⟩ : CertificateValidation))
        = b.serverValidation.map (fun v => ⟨v.ca.caBundle, [.exact v.subjectName]⟩) ↔
        a.serverValidation.map (fun v => (v.ca.caBundle, v.subjectName))
          = b.serverValidation.map (fun v => (v.ca.caBundle, v.subjectName)) := by
      cases a.serverValidation <;> cases b.serverValidation <;> simp
    have hcertificate : a.clientCertificate.toList.map KeyMaterial.messageName
        = b.clientCertificate.toList.map KeyMaterial.messageName ↔
        a.clientCertificate.map KeyMaterial.messageName
          = b.clientCertificate.map KeyMaterial.messageName := by
      cases a.clientCertificate <;> cases b.clientCertificate <;> simp
    rw [← hvalidation, ← hcertificate]
    simp [Cluster.message, Cluster.tlsContext, ← hprotocol, htls, hsni, Protocol.usesTls, and_comm]
  · -- without certificates the settings are fixed by the protocol
    obtain ⟨hvalidation, hcertificate⟩ := ha.secrets htls
    obtain ⟨hvalidation', hcertificate'⟩ := hb.secrets (hprotocol ▸ htls)
    simp [Cluster.message, Cluster.tlsContext, ← hprotocol, hsni, hvalidation, hcertificate,
      hvalidation', hcertificate']

/-- Clusters with the same name become the same message if and only if they `Agree`. -/
theorem message_eq_iff (config : ProxyConfig) (ha : a.Regular) (hb : b.Regular)
    (hname : a.messageName = b.messageName) (hsame : SameSettings a b) :
    a.message config = b.message config ↔ Agree a b := by
  constructor
  -- the parts that the names already share are equal, so only the others are compared
  · intro heq
    have htold : a.backend.target.told = b.backend.target.told :=
      congrArg (fun m : ClusterMessage => (m.altStatName, m.discovery, m.circuitBreakers)) heq
    obtain ⟨hpath, hhost⟩ := (healthChecks_eq_iff hsame.checks).mp
      (congrArg ClusterMessage.healthChecks heq)
    obtain ⟨hvalidation, hcertificate⟩ := (transportSocket_eq_iff config ha hb hsame.protocol
      (sni_eq_of_told_eq ha hb htold)).mp (congrArg ClusterMessage.transportSocket heq)
    exact ⟨htold, hpath, hhost, hvalidation, hcertificate⟩
  · intro hagree
    have hsni := sni_eq_of_told_eq ha hb hagree.target
    rw [ClusterMessage.mk.injEq]
    refine ⟨hname, ?_, rfl, ?_, ?_, ?_, ?_, ?_, ?_⟩
    · exact congrArg (fun t => t.1) hagree.target
    · exact congrArg Strategy.policy hsame.strategy
    · exact congrArg (fun t => t.2.1) hagree.target
    · exact congrArg (fun t => t.2.2) hagree.target
    · exact (healthChecks_eq_iff hsame.checks).mpr ⟨hagree.path, hagree.host⟩
    · exact congrArg Protocol.usesHttp2 hsame.protocol
    · exact (transportSocket_eq_iff config ha hb hsame.protocol hsni).mpr
        ⟨hagree.validation, hagree.certificate⟩

/-! ### Messages that are kept -/

/-- The message of every cluster is in the snapshot if and only if clusters with the same name
become the same message. -/
theorem Graph.clusters_kept_iff (config : ProxyConfig) (g : Graph) :
    (∀ c, g.HasCluster c → c.message config ∈ (g.snapshot config).clusters) ↔
      ∀ a b, g.HasCluster a → g.HasCluster b → a.messageName = b.messageName →
        a.message config = b.message config := by
  constructor
  · intro hkept a b ha hb hname
    -- the names of the messages that are kept differ
    have hincreasing : Increasing ((g.snapshot config).clusters.map ClusterMessage.name) :=
      firstByName_increasing clusters_keyed
    exact List.inj_on_of_nodup_map hincreasing.nodup (hkept a ha) (hkept b hb) hname
  · intro hsame c hc
    have hname : c.messageName ∈ (g.snapshot config).clusters.map ClusterMessage.name :=
      mem_cluster_names.mpr ⟨c, hc, rfl⟩
    obtain ⟨m, hm, hname⟩ := List.mem_map.mp hname
    obtain ⟨key, hkey⟩ := mem_firstByName hm
    obtain ⟨c', hc', heq⟩ := List.mem_map.mp hkey
    obtain ⟨-, rfl⟩ := Prod.mk.inj heq
    rw [hsame c c' hc (mem_cluster?.mp hc') hname.symm]
    exact hm

end GatewayCompiler

namespace GatewayCompiler.Build

open Proxy

section

variable {engine : Pattern.Engine} {cache : Cache} {a b : Cluster}

/-! ### Clusters of a build -/

/-- The clusters of a build are `Regular`. -/
theorem regular_of_visit {c : Cluster} (hc : .cluster c ∈ (Graph.build cache).visits) :
    c.Regular where
  sni := (pinned_of_visit hc).sni
  secrets := by
    rcases accounted_of_visit hc with hnone | ⟨_, _, -, -, hbuilds⟩
    · exact fun _ => hnone
    · exact hbuilds.clusterOf.otherwise

/-- `Stored cache c` says that the secrets of a cluster are what the cache holds under their
identities. -/
structure Stored (cache : Cache) (c : Cluster) : Prop where
  /-- The authorities. -/
  ca : ∀ v, c.serverValidation = some v → cache.caBundle? v.ca.identity = some v.ca
  /-- The certificate that is shown to the service. -/
  certificate : ∀ k, c.clientCertificate = some k → cache.keypair? k.identity = some k

theorem stored_of_visit {c : Cluster} (hc : .cluster c ∈ (Graph.build cache).visits) :
    Stored cache c := by
  by_cases htls : c.backend.protocol = .tls
  -- over TLS the secrets are those that the entry names, and there are none otherwise
  · rcases accounted_of_visit hc with ⟨hvalidation, hcertificate⟩ | ⟨_, s, -, -, hbuilds⟩
    · exact ⟨by simp [hvalidation], by simp [hcertificate]⟩
    · obtain ⟨hverifies, hpresents⟩ := hbuilds.clusterOf.overTls htls
      constructor
      · intro v hv
        unfold Verifies at hverifies
        rw [hv] at hverifies
        split at hverifies
        · cases hverifies
        · obtain ⟨ca, hca, -, heq⟩ := hverifies
          cases heq
          rwa [caBundle?_identity hca]
      · intro k hk
        unfold Presents at hpresents
        rw [hk] at hpresents
        split at hpresents
        · cases hpresents
        · obtain ⟨keys, hkeys, heq⟩ := hpresents
          cases heq
          rwa [keypair?_identity hkeys]
  · obtain ⟨hvalidation, hcertificate⟩ := (regular_of_visit hc).secrets htls
    exact ⟨by simp [hvalidation], by simp [hcertificate]⟩

/-- The text of an identity without a slash in its namespace tells the identity. -/
theorem identity_eq_of_text_eq {i j : Identity} (hi : Free '/' i.space) (hj : Free '/' j.space)
    (h : i.text = j.text) : i = j := by
  have hsegments : ∀ i : Identity, joinSegments [i.space, i.name] = i.text := fun i =>
    (String.intercalate_cons_cons ..).trans (by rw [String.intercalate_singleton]; rfl)
  obtain ⟨hspace, hname⟩ := joinSegments_two_inj hi hj (by rw [hsegments, hsegments, h])
  cases i
  cases j
  rw [Identity.mk.injEq]
  exact ⟨hspace, hname⟩

theorem message_host_eq {h h' : HealthCheck} (hhost : h.host.getD "" = h'.host.getD "") :
    h.message.host = h'.message.host := by
  have hfixed : ∀ h : HealthCheck, h.message.host =
      if h.host.getD "" = "" then HealthCheck.defaultHost else h.host.getD "" := by
    intro h
    simp only [HealthCheck.message]
    split
    · next hnone => simp [hnone]
    · next hempty => simp [hempty]
    · next host hne hsome =>
      have hother : host ≠ "" := hne
      simp [hsome, hother]
  rw [hfixed, hfixed, hhost]

/-- Optional values tell as much of each other as the values do. -/
theorem map_eq_of_map_eq {α β γ : Type} {o o' : Option α} {f : α → β} {g : α → γ}
    (h : o.map f = o'.map f)
    (hg : ∀ x y, o = some x → o' = some y → f x = f y → g x = g y) : o.map g = o'.map g := by
  cases o with
  | none =>
    cases o' with
    | none => rfl
    | some y => cases h
  | some x =>
    cases o' with
    | none => cases h
    | some y => exact congrArg some (hg x y rfl rfl (Option.some.inj h))

/-- Tidy clusters of a build with the same name `Agree`: a secret is told by its identity, since
both come from one cache. -/
theorem agree_of_tidy (hva : .cluster a ∈ (Graph.build cache).visits)
    (hvb : .cluster b ∈ (Graph.build cache).visits) (apart : Apart a b)
    (hname : a.messageName = b.messageName) (ha : a.Tidy) (hb : b.Tidy) : Agree a b := by
  have hservice := service_eq_of_messageName_eq apart hname ha.service hb.service
  have htarget := target_eq_of_visits hva hvb hservice (portNumber_eq_of_messageName_eq apart hname)
  have htexts := sameTexts_of_settingsText_eq ha hb (settingsText_eq_of_messageName_eq apart hname)
  refine ⟨congrArg BackendTarget.told htarget, htexts.path,
    map_eq_of_map_eq htexts.host fun _ _ _ _ => message_host_eq, ?_, ?_⟩
  -- the cache holds one secret under an identity
  · refine map_eq_of_map_eq htexts.ca fun v v' hv hv' htext => ?_
    have hidentity := identity_eq_of_text_eq (ha.validation v hv).1 (hb.validation v' hv').1 htext
    have hca := (stored_of_visit hva).ca v hv
    rw [hidentity, (stored_of_visit hvb).ca v' hv'] at hca
    have hsubject := htexts.subject
    rw [hv, hv'] at hsubject
    rw [Prod.mk.injEq]
    exact ⟨congrArg KeyMaterial.caBundle (Option.some.inj hca).symm, Option.some.inj hsubject⟩
  · refine map_eq_of_map_eq htexts.certificate fun k k' hk hk' htext => ?_
    have hidentity := identity_eq_of_text_eq (ha.certificate k hk).1 (hb.certificate k' hk').1 htext
    have hcertificate := (stored_of_visit hva).certificate k hk
    rw [hidentity, (stored_of_visit hvb).certificate k' hk'] at hcertificate
    exact congrArg KeyMaterial.messageName (Option.some.inj hcertificate).symm

/-- **When clusters are kept.** Clusters of a build with the same name have the same settings up to
the free texts; they become the same message if and only if they agree, as they do if they are tidy.
The message of every cluster is kept if and only if all clusters with the same name agree. -/
theorem build_clusters_kept (cache : Cache) (config : ProxyConfig) :
    (∀ a b, (Graph.build cache).HasCluster a → (Graph.build cache).HasCluster b → Apart a b →
      a.messageName = b.messageName →
      SameSettings a b ∧ (a.message config = b.message config ↔ Agree a b) ∧
        (a.Tidy → b.Tidy → Agree a b)) ∧
    ((∀ a b, (Graph.build cache).HasCluster a → (Graph.build cache).HasCluster b → Apart a b) →
      ((∀ c, (Graph.build cache).HasCluster c →
          c.message config ∈ ((Graph.build cache).snapshot config).clusters) ↔
        ∀ a b, (Graph.build cache).HasCluster a → (Graph.build cache).HasCluster b →
          a.messageName = b.messageName → Agree a b)) := by
  -- what holds for two clusters of one name, under the assumption that they are kept apart
  have hpair : ∀ a b, (Graph.build cache).HasCluster a → (Graph.build cache).HasCluster b →
      Apart a b → a.messageName = b.messageName →
      SameSettings a b ∧ (a.message config = b.message config ↔ Agree a b) ∧
        (a.Tidy → b.Tidy → Agree a b) := by
    intro a b ha hb apart hname
    have hva := Graph.cluster_mem_visits.mpr ha
    have hvb := Graph.cluster_mem_visits.mpr hb
    have hsame := sameSettings_of_messageName_eq apart hname
    exact ⟨hsame, message_eq_iff config (regular_of_visit hva) (regular_of_visit hvb) hname hsame,
      agree_of_tidy hva hvb apart hname⟩
  refine ⟨hpair, fun apart => (Graph.clusters_kept_iff config _).trans ?_⟩
  constructor
  · intro hsame a b ha hb hname
    exact (hpair a b ha hb (apart a b ha hb) hname).2.1.mp (hsame a b ha hb hname)
  · intro hagree a b ha hb hname
    exact (hpair a b ha hb (apart a b ha hb) hname).2.1.mpr (hagree a b ha hb hname)

end

/-! ### Health checks that cannot be told apart -/

/-- A route to a service with the health check `check`, for the paths that begin with `lead`. -/
def checkedRoute (lead : String) (weight : Int) (check : HealthCheckSpec) : RouteSpec where
  conditions := [⟨some lead, none, none⟩]
  services := [⟨"backend", 80, weight, none, none, some check, none, none, []⟩]
  delegate := none
  websockets := false
  permitInsecure := false
  prefixReplacement := none
  retry := none
  timeout := none
  filters := []
  skipAuthorization := false

/-- A root with two routes to a service, in which it is checked in two ways, `first` and
`second`. -/
def checkedRoot (first second : HealthCheckSpec) : GatewayHost where
  metadata := { name := some "site", space := some "default" }
  virtualHost := some ⟨"site.test", none, []⟩
  routes := [checkedRoute "/a" 1 first, checkedRoute "/b" 2 second]
  tcpProxy := none

/-- A cache with the root and the service. -/
def checkedCache (first second : HealthCheckSpec) : Cache where
  gatewayHosts := .ofList [(⟨"default", "site"⟩, checkedRoot first second)]
  services := .ofList [(⟨"default", "backend"⟩,
    ⟨{ name := some "backend", space := some "default" }, none, none, [⟨none, 80⟩]⟩)]

/-- The cluster of a `checkedRoute`. -/
def checkedCluster (weight : Nat) (check : HealthCheckSpec) : Cluster where
  backend := ⟨{ service := ⟨"default", "backend"⟩, portName := none, portNumber := 80 },
    .http .plaintext⟩
  weight := weight
  healthCheck := some (buildHealthCheck check)
  sni := none

section Checked

variable (first second : HealthCheckSpec)

theorem checked_accepted : Accepted (checkedCache first second) ⟨"default", "site"⟩
    (checkedRoot first second) ⟨"site.test", none, []⟩ .off :=
  ⟨OrderedMap.find?_insert_self .., rfl, rfl, rfl⟩

theorem checked_serveSteps :
    serveSteps (checkedCache first second) ⟨"default", "site"⟩ (checkedRoot first second)
        "site.test" =
      [.serve (hostRef ⟨"default", "site"⟩) (checkedRoute "/a" 1 first) [⟨some "/a", none, none⟩],
        .serve (hostRef ⟨"default", "site"⟩) (checkedRoute "/b" 2 second) [⟨some "/b", none, none⟩],
        .accept ⟨"default", "site"⟩] := by
  refine (routeSteps_of_own ?_).trans rfl
  rintro r (_ | ⟨_, _ | ⟨_, ⟨⟩⟩⟩)
  · exact ⟨rfl, rfl⟩
  · exact ⟨rfl, rfl⟩

theorem checked_buildAll : buildAll (checkedCache first second) =
    (((sortHosts (checkedCache first second) (addIngresses (checkedCache first second))).look
      (checkRoot (checkedCache first second) ⟨"default", "site"⟩ ⟨"site.test", none, []⟩).run).2.openRoot
        (checkedCache first second) ⟨"default", "site"⟩ (checkedRoot first second)
          ⟨"site.test", none, []⟩ .off).takeAll
      (checkedCache first second) ⟨"site.test", false⟩
      [.serve (hostRef ⟨"default", "site"⟩) (checkedRoute "/a" 1 first) [⟨some "/a", none, none⟩],
        .serve (hostRef ⟨"default", "site"⟩) (checkedRoute "/b" 2 second) [⟨some "/b", none, none⟩],
        .accept ⟨"default", "site"⟩] := by
  rw [buildAll_of_single rfl (checked_accepted first second)]
  exact congrArg (fun steps => Building.takeAll (checkedCache first second) ⟨"site.test", false⟩
    steps _) (checked_serveSteps first second)

end Checked

/-- Clusters for the same port with the same text of settings have the same name. -/
theorem messageName_eq_of_settingsText_eq {a b : Cluster}
    (htarget : a.backend.target = b.backend.target)
    (htext : a.settingsText = b.settingsText) : a.messageName = b.messageName := by
  have hsegments : a.segments = b.segments := by
    unfold Cluster.segments Cluster.digest
    rw [htarget, htext]
  rw [Cluster.messageName_eq, Cluster.messageName_eq, hsegments]

/-- Where the texts are the same, no digests are mistaken for each other, so that the clusters are
`Apart`. -/
theorem apart_of_settingsText_eq (htarget : a.backend.target = b.backend.target)
    (htext : a.settingsText = b.settingsText) : Apart a b where
  settings _ := htext
  names _ _ _ := by
    unfold Cluster.fullName Cluster.segments Cluster.digest
    rw [htarget, htext]

/-- A health check without separators in its texts. -/
def tidyCheck : HealthCheckSpec := ⟨"/health", some "probe", 5, 1, 3, 2⟩

theorem tidy_hasCluster {c : Cluster} :
    (Graph.build (checkedCache tidyCheck tidyCheck)).HasCluster c ↔
      c = checkedCluster 1 tidyCheck ∨ c = checkedCluster 2 tidyCheck := by
  have hclusters : (Graph.build (checkedCache tidyCheck tidyCheck)).visits.filterMap Visit.cluster?
      = [checkedCluster 1 tidyCheck, checkedCluster 2 tidyCheck] := by
    unfold Graph.build
    rw [checked_buildAll]
    rfl
  rw [← mem_cluster?, hclusters]
  simp

theorem tidy_service : Identity.Tidy ⟨"default", "backend"⟩ where
  space := by decide
  wholeSpace h := absurd h.length (by decide)
  wholeName h := absurd h.length (by decide)

theorem checkedCluster_tidy (weight : Nat) : (checkedCluster weight tidyCheck).Tidy where
  service := tidy_service
  check := by
    rintro _ ⟨⟩
    exact ⟨by decide, by decide⟩
  validation := by rintro _ ⟨⟩
  certificate := by rintro _ ⟨⟩

/-- Two clusters that differ in their weights share a message, which is kept. -/
theorem tidy_clusters_kept :
    (checkedCluster 1 tidyCheck).message {} = (checkedCluster 2 tidyCheck).message {} ∧
      ∀ c, (Graph.build (checkedCache tidyCheck tidyCheck)).HasCluster c →
        c.message {} ∈ ((Graph.build (checkedCache tidyCheck tidyCheck)).snapshot {}).clusters := by
  obtain ⟨hpair, hkept⟩ := build_clusters_kept (checkedCache tidyCheck tidyCheck) {}
  have hfirst : (Graph.build (checkedCache tidyCheck tidyCheck)).HasCluster
    (checkedCluster 1 tidyCheck) := tidy_hasCluster.mpr (.inl rfl)
  have hsecond : (Graph.build (checkedCache tidyCheck tidyCheck)).HasCluster
    (checkedCluster 2 tidyCheck) := tidy_hasCluster.mpr (.inr rfl)
  have hcluster : ∀ c, (Graph.build (checkedCache tidyCheck tidyCheck)).HasCluster c →
      ∃ weight, c = checkedCluster weight tidyCheck := by
    intro c hc
    rcases tidy_hasCluster.mp hc with rfl | rfl
    · exact ⟨1, rfl⟩
    · exact ⟨2, rfl⟩
  have apart : ∀ a b, (Graph.build (checkedCache tidyCheck tidyCheck)).HasCluster a →
      (Graph.build (checkedCache tidyCheck tidyCheck)).HasCluster b → Apart a b := by
    intro a b ha hb
    obtain ⟨weight, rfl⟩ := hcluster a ha
    obtain ⟨weight', rfl⟩ := hcluster b hb
    exact apart_of_settingsText_eq rfl rfl
  constructor
  · obtain ⟨-, hiff, hagree⟩ := hpair _ _ hfirst hsecond (apart _ _ hfirst hsecond)
      (messageName_eq_of_settingsText_eq rfl rfl)
    exact hiff.mpr (hagree (checkedCluster_tidy 1) (checkedCluster_tidy 2))
  · refine (hkept apart).mpr fun a b ha hb hname => ?_
    obtain ⟨-, -, hagree⟩ := hpair a b ha hb (apart a b ha hb) hname
    obtain ⟨weight, rfl⟩ := hcluster a ha
    obtain ⟨weight', rfl⟩ := hcluster b hb
    exact hagree (checkedCluster_tidy weight) (checkedCluster_tidy weight')

/-- A health check whose path looks like a path with a host behind it. -/
def pathCheck : HealthCheckSpec := ⟨"/x;host=y", none, 0, 0, 0, 0⟩

/-- A health check whose host looks like a host with another one behind it. -/
def hostCheck : HealthCheckSpec := ⟨"/x", some "y;host=", 0, 0, 0, 0⟩

theorem alias_hasCluster {c : Cluster} :
    (Graph.build (checkedCache pathCheck hostCheck)).HasCluster c ↔
      c = checkedCluster 1 pathCheck ∨ c = checkedCluster 2 hostCheck := by
  have hclusters : (Graph.build (checkedCache pathCheck hostCheck)).visits.filterMap Visit.cluster?
      = [checkedCluster 1 pathCheck, checkedCluster 2 hostCheck] := by
    unfold Graph.build
    rw [checked_buildAll]
    rfl
  rw [← mem_cluster?, hclusters]
  simp

theorem alias_settingsText :
    (checkedCluster 1 pathCheck).settingsText = (checkedCluster 2 hostCheck).settingsText := by
  rfl

/-- Two clusters share a name without any digests that are mistaken for each other, and their health
checks differ, so that a message is lost. -/
theorem alias_not_same :
    (Graph.build (checkedCache pathCheck hostCheck)).HasCluster (checkedCluster 1 pathCheck) ∧
    (Graph.build (checkedCache pathCheck hostCheck)).HasCluster (checkedCluster 2 hostCheck) ∧
    Apart (checkedCluster 1 pathCheck) (checkedCluster 2 hostCheck) ∧
    (checkedCluster 1 pathCheck).messageName = (checkedCluster 2 hostCheck).messageName ∧
    (checkedCluster 1 pathCheck).message {} ≠ (checkedCluster 2 hostCheck).message {} ∧
    ¬ ∀ c, (Graph.build (checkedCache pathCheck hostCheck)).HasCluster c →
      c.message {} ∈ ((Graph.build (checkedCache pathCheck hostCheck)).snapshot {}).clusters := by
  have hfirst := alias_hasCluster.mpr (.inl (Eq.refl (checkedCluster 1 pathCheck)))
  have hsecond := alias_hasCluster.mpr (.inr (Eq.refl (checkedCluster 2 hostCheck)))
  have hname : (checkedCluster 1 pathCheck).messageName = (checkedCluster 2 hostCheck).messageName :=
    messageName_eq_of_settingsText_eq rfl alias_settingsText
  have hdiffer : (checkedCluster 1 pathCheck).message {} ≠ (checkedCluster 2 hostCheck).message {} := by
    intro heq
    have hpaths : ["/x;host=y"] = ["/x"] :=
      congrArg (fun m : ClusterMessage => m.healthChecks.map HealthCheckMessage.path) heq
    exact absurd hpaths (by decide)
  refine ⟨hfirst, hsecond, apart_of_settingsText_eq rfl alias_settingsText, hname, hdiffer, ?_⟩
  intro hkept
  exact hdiffer ((Graph.clusters_kept_iff {} _).mp hkept _ _ hfirst hsecond hname)

end GatewayCompiler.Build
