import GatewayCompiler.Proofs.Growth

/-!
# Hosts over TLS and their certificates

A host over TLS is made when it is needed first, by an ingress or by a root.  Routes and forwardings
that are attached later leave its certificate alone.  A certificate comes from an ingress that names
the host in its TLS part, or from a root that decrypts connections with one.

## Main definitions

* `Building.secureAt` — the host of a name over TLS, or a new one.
* `Building.KeepsSecure` — two builds have the same hosts over TLS from a certain side.
* `Granted` — an ingress gives the host of a name a certificate.
* `allGrants` — the certificates that ingresses give, in order.

## Main statements

* `Building.takeAll_keepsSecure`, `Building.takeAll_keepsForwarding` — a walk keeps certificates, and
  forwardings unless it makes one.
* `foldl_getLast?` — the last of several writes is seen.
* `certifiedAt_grantAll` — a host has the last certificate that it is given.
* `certificate_addIngresses` — which hosts the ingresses give a certificate.
* `name_buildAll` — hosts over TLS stand at their names.
-/

namespace GatewayCompiler.Build

variable {cache : Cache} {α β : Type} {side : SecureHost → α} {name : String}

namespace Building

/-! ### Sides of hosts -/

/-- `b.secureAt name` is the host of a name over TLS in the build `b`; without one, a new one. -/
def secureAt (name : String) (b : Building) : SecureHost :=
  (b.secure.find? name).getD { host := { name } }

/-- A host that is there is the one of its name. -/
theorem secureAt_of_find? {h : SecureHost} {b : Building} (hfind : b.secure.find? name = some h) :
    b.secureAt name = h := by
  rw [secureAt, hfind]
  rfl

theorem secureAt_congr {b b' : Building} (h : b.hostsAt name = b'.hostsAt name) :
    b.secureAt name = b'.secureAt name := by
  have hsecure : b.secure.find? name = b'.secure.find? name := congrArg Prod.snd h
  rw [secureAt, secureAt, hsecure]

/-- A change of the host of one name is seen at this name only. -/
theorem secureAt_onSecureHost (host : String) (change : SecureHost → SecureHost) (b : Building) :
    (b.onSecureHost host change).secureAt name
      = if name = host then change (b.secureAt host) else b.secureAt name := by
  unfold secureAt onSecureHost
  simp only
  rw [OrderedMap.find?_insert]
  split
  · rfl
  · rfl

/-- `KeepsSecure side b b'` says that the hosts over TLS are the same in `b` and `b'` as far as
`side` shows them. -/
def KeepsSecure (side : SecureHost → α) (b b' : Building) : Prop :=
  ∀ name, side (b'.secureAt name) = side (b.secureAt name)

namespace KeepsSecure

variable {b b' b'' : Building}

theorem trans (h : KeepsSecure side b b') (h' : KeepsSecure side b' b'') : KeepsSecure side b b'' :=
  fun name => (h' name).trans (h name)

/-- A build with the same hosts over TLS keeps all of their sides. -/
theorem of_secure_eq (h : b'.secure = b.secure) : KeepsSecure side b b' := by
  intro name
  rw [secureAt, secureAt, h]

/-- What is kept of a side is kept of everything that is a part of it. -/
theorem map (h : KeepsSecure side b b') (f : α → β) : KeepsSecure (fun h => f (side h)) b b' :=
  fun name => congrArg f (h name)

/-- A change that leaves a side alone keeps it. -/
theorem onSecureHost (host : String) (change : SecureHost → SecureHost) (b : Building)
    (hchange : ∀ h, side (change h) = side h) : KeepsSecure side b (b.onSecureHost host change) := by
  intro name
  rw [secureAt_onSecureHost]
  split
  · next heq =>
    rw [hchange, heq]
  · rfl

theorem foldl {ι : Type} {op : Building → ι → Building} {items : List ι}
    (hop : ∀ b, ∀ i ∈ items, KeepsSecure side b (op b i)) (b : Building) :
    KeepsSecure side b (items.foldl op b) := by
  refine List.foldlRecOn (motive := KeepsSecure side b) _ _ (of_secure_eq rfl) ?_
  intro b' hkept i hi
  exact hkept.trans (hop b' i hi)

end KeepsSecure

theorem report_keepsSecure (object : ObjectRef) (problems : List Problem) (host : String)
    (b : Building) : KeepsSecure side b (b.report object problems host) := by
  obtain ⟨statuses, heq⟩ := report_eq object problems host b
  rw [heq]
  exact .of_secure_eq rfl

/-! ### Walks and roots -/

theorem attach_keepsSecure (hroute : ∀ (h : SecureHost) (route : Route),
      side { h with host := h.host.addRoute route } = side h)
    (place : Place) (route : Route) (permitInsecure : Bool) (b : Building) :
    KeepsSecure side b (b.attach place route permitInsecure) := by
  unfold attach
  -- the change in plain text is not seen over TLS
  have hplain : KeepsSecure side b (b.onPlainHost place.host
      (·.addRoute { route with httpsUpgrade := place.enforceTls && !permitInsecure })) :=
    .of_secure_eq rfl
  simp only
  split
  · refine hplain.trans (.onSecureHost _ _ _ ?_)
    intro h
    exact hroute h route
  · exact hplain

/-- A step attaches routes and forwardings only, and it is `Step.forward` which attaches a
forwarding. -/
theorem take_keepsSecure (hroute : ∀ (h : SecureHost) (route : Route),
      side { h with host := h.host.addRoute route } = side h)
    (place : Place) (s : Step) (b : Building)
    (hforward : ∀ owner services, s = .forward owner services → ∀ (h : SecureHost) clusters,
      side { h with host := { h.host with tcpProxy := some clusters } } = side h) :
    KeepsSecure side b (b.take cache place s) := by
  cases s with
  | serve object spec conditions =>
    change KeepsSecure _ b (b.serve cache place object spec conditions)
    unfold serve
    -- looking something up leaves all hosts alone
    have hlook : KeepsSecure side b
        (b.look (buildRoute cache object.identity.space spec conditions)).2 := .of_secure_eq rfl
    generalize b.look (buildRoute cache object.identity.space spec conditions) = found at hlook ⊢
    obtain ⟨⟨route, problems⟩, b'⟩ := found
    have hreport := hlook.trans (report_keepsSecure object problems place.host b')
    cases route with
    | none => exact hreport
    | some route => exact hreport.trans (attach_keepsSecure hroute place route spec.permitInsecure _)
  | forward owner services =>
    change KeepsSecure _ b (b.forward cache place owner services)
    unfold forward
    have hlook : KeepsSecure side b
        (b.look (forwardClusters cache owner.space services)).2 := .of_secure_eq rfl
    generalize b.look (forwardClusters cache owner.space services) = found at hlook ⊢
    obtain ⟨clusters, b'⟩ := found
    -- only the forwarding is put into the host over TLS
    cases clusters with
    | error problem => exact hlook
    | ok clusters =>
      have hhost : KeepsSecure side b'
          (b'.onSecureHost place.host fun h =>
            { h with host := { h.host with tcpProxy := some clusters } }) := by
        refine .onSecureHost _ _ _ ?_
        intro h
        exact hforward owner services rfl h clusters
      exact (hlook.trans hhost).trans (.of_secure_eq rfl)
  | reach target => exact .of_secure_eq rfl
  | merge identity => exact .of_secure_eq rfl
  | settle object outcome => exact .of_secure_eq rfl

/-- A walk keeps the certificates of hosts. -/
theorem takeAll_keepsSecure (place : Place) (steps : List Step) (b : Building) :
    KeepsSecure SecureHost.certificate b (b.takeAll cache place steps) :=
  .foldl (fun b s _ => take_keepsSecure (fun _ _ => rfl) place s b fun _ _ _ _ _ => rfl) b

/-- A walk that forwards no connections keeps the forwardings of hosts. -/
theorem takeAll_keepsForwarding (place : Place) {steps : List Step}
    (hsteps : ∀ owner services, .forward owner services ∉ steps) (b : Building) :
    KeepsSecure (fun h => h.host.tcpProxy) b (b.takeAll cache place steps) :=
  .foldl (fun b s hs => take_keepsSecure (fun _ _ => rfl) place s b fun owner services heq =>
    absurd (heq ▸ hs) (hsteps owner services)) b

/-- Only a root whose mode is `TlsMode.terminate` changes more than the filters of its host. -/
theorem openRoot_keepsSecure {root : Identity} {host : GatewayHost} {v : VirtualHostSpec}
    {mode : TlsMode} (b : Building)
    (hterminate : ∀ certificate minVersion, mode = .terminate certificate minVersion →
      ∀ (h : SecureHost) (filters : List Filter),
        side { host := h.host.addFilters filters, certificate := some certificate, minVersion }
          = side h) :
    KeepsSecure side b (b.openRoot cache root host v mode) := by
  unfold openRoot
  generalize resolveFilters cache .virtualHost root.space v.filters = found
  obtain ⟨filters, problems⟩ := found
  have hreport := @report_keepsSecure _ side (hostRef root) problems v.domain
  cases mode with
  | off => exact (hreport b).trans (.of_secure_eq rfl)
  | terminate certificate minVersion =>
    have hsecure := (hreport b).trans (.onSecureHost v.domain (fun h =>
      { host := h.host.addFilters filters, certificate := some certificate, minVersion }) _
        fun h => hterminate certificate minVersion rfl h filters)
    simp only
    split
    · exact hsecure
    · exact hsecure.trans (.of_secure_eq rfl)
  | passthrough =>
    have hsecure : KeepsSecure side b (b.onSecureHost v.domain id) :=
      .onSecureHost v.domain id b fun _ => rfl
    simp only
    split
    · exact hsecure
    · exact (hsecure.trans (hreport _)).trans (.of_secure_eq rfl)

/-! ### Ingresses -/

theorem attachIngress_keepsSecure (m : Metadata) (host : String) (route : Route) (b : Building) :
    KeepsSecure (fun h => (h.certificate, h.host.tcpProxy)) b
      (b.attachIngress m host route) := by
  have hplain : KeepsSecure (fun h => (h.certificate, h.host.tcpProxy)) b
      (if m.httpAllowed || m.tlsRequired then b.onPlainHost host (·.addRoute route) else b) := by
    split
    · exact .of_secure_eq rfl
    · exact .of_secure_eq rfl
  unfold attachIngress
  generalize (if m.httpAllowed || m.tlsRequired then b.onPlainHost host (·.addRoute route) else b)
    = b' at hplain ⊢
  simp only
  split
  · refine hplain.trans (.onSecureHost _ _ _ ?_)
    intro h
    rfl
  · exact hplain

/-- The routes of an ingress change nothing else about a host: its certificate and its forwarding
stay. -/
theorem addIngress_keepsSecure (ingress : Identity × Ingress) (b : Building) :
    KeepsSecure (fun h => (h.certificate, h.host.tcpProxy)) b
      (b.addIngress cache ingress) := by
  refine .foldl (fun b entry _ => ?_) b
  unfold addIngressEntry
  cases entry.backend? ingress.1.space with
  | none => exact .of_secure_eq rfl
  | some named =>
    -- the port is looked up before the route is made, which changes no host
    have hlook : KeepsSecure (fun h => (h.certificate, h.host.tcpProxy)) b
        (b.look (lookupBackend cache named.1 named.2 none)).2 := .of_secure_eq rfl
    simp only
    generalize b.look (lookupBackend cache named.1 named.2 none) = found at hlook ⊢
    obtain ⟨backend, b'⟩ := found
    cases backend with
    | none => exact hlook
    | some backend => exact hlook.trans (attachIngress_keepsSecure _ _ _ _)

/-- The certificates of an ingress change nothing else about a host. -/
theorem addSecureGrants_keepsSecure (ingress : Identity × Ingress) (b : Building) :
    KeepsSecure SecureHost.host b (b.addSecureGrants cache ingress) := by
  unfold addSecureGrants
  have hlook : KeepsSecure SecureHost.host b
      (b.look (secureGrants cache ingress.1.space
        (MinTlsVersion.ofText (ingress.2.metadata.annotation Annotation.minTlsVersion))
        ingress.2.spec.tls)).2 := .of_secure_eq rfl
  simp only
  generalize b.look _ = found at hlook ⊢
  obtain ⟨grants, b'⟩ := found
  refine hlook.trans (.foldl ?_ b')
  intro b' g _
  refine .onSecureHost _ _ _ ?_
  intro h
  rfl

end Building

/-- The ingresses make hosts that forward nothing. -/
theorem addIngresses_keepsSecure (cache : Cache) :
    Building.KeepsSecure (fun h => h.host.tcpProxy) {} (addIngresses cache) := by
  have hgrants : Building.KeepsSecure (fun h => h.host.tcpProxy) {}
      (cache.ingresses.toList.foldl (Building.addSecureGrants cache) {}) :=
    .foldl (fun b ingress _ => (Building.addSecureGrants_keepsSecure ingress b).map VirtualHost.tcpProxy) _
  refine hgrants.trans (.foldl (fun b ingress _ => ?_) _)
  exact (Building.addIngress_keepsSecure ingress b).map Prod.snd

/-- Hosts over TLS stand at their names. -/
theorem name_buildAll [Pattern.Engine] {h : SecureHost}
    (hfind : (buildAll cache).secure.find? name = some h) :
    h.host.name = name := ((buildAll_grown cache).secure name h hfind).host.name_eq

/-! ### The last write counts -/

/-- When every operation of a fold writes some values to a place, the last of them is seen there.
What is seen is `see`, and what an operation writes is `writes`. -/
theorem foldl_getLast? {σ α β : Type} {op : σ → α → σ} (see : σ → Option β) (writes : α → List β)
    (Keeps : σ → Prop) (hkeeps : ∀ s a, Keeps s → Keeps (op s a))
    (hwrites : ∀ s a, Keeps s → see (op s a) = ((writes a).getLast?).or (see s)) (items : List α) {s : σ}
    (hs : Keeps s) :
    see (items.foldl op s) = ((items.flatMap writes).getLast?).or (see s) := by
  induction items generalizing s with
  | nil => rfl
  | cons a rest ih =>
    rw [List.foldl_cons, ih (hkeeps s a hs), hwrites s a hs, List.flatMap_cons, List.getLast?_append,
      Option.or_assoc]

/-- When those of the operations that `p` picks write a value to a place, the value of the last of
them is seen there. -/
theorem foldl_filter_getLast? {σ α β : Type} {op : σ → α → σ} (see : σ → Option β) (p : α → Bool)
    (value : α → β) (Keeps : σ → Prop) (hkeeps : ∀ s a, Keeps s → Keeps (op s a))
    (hwrites : ∀ s a, Keeps s → see (op s a) = if p a then some (value a) else see s) (items : List α)
    {s : σ} (hs : Keeps s) :
    see (items.foldl op s) = (((items.filter p).getLast?).map value).or (see s) := by
  have hitems : (items.flatMap fun a => if p a then [value a] else []) = (items.filter p).map value := by
    -- what is written are the values of those that pass, in their order
    induction items with
    | nil => rfl
    | cons a rest ih =>
      rw [List.flatMap_cons, List.filter_cons, ih]
      cases p a <;> rfl
  rw [← List.getLast?_map, ← hitems]
  refine foldl_getLast? see _ Keeps hkeeps (fun s a hs => ?_) items hs
  rw [hwrites s a hs]
  split
  · rfl
  · rfl

/-! ### Certificates of ingresses -/

/-- `GrantedBy cache name ingress` says that a part of `ingress` names a host together with a
certificate that it may use. -/
def GrantedBy (cache : Cache) (name : String) (ingress : Identity × Ingress) : Prop :=
  ∃ tls ∈ ingress.2.spec.tls, name ∈ tls.hosts ∧
    (grantedCertificate? cache ingress.1.space tls).isSome

/-- `Granted cache name` says that some ingress gives the host of a name a certificate. -/
def Granted (cache : Cache) (name : String) : Prop :=
  ∃ ingress ∈ cache.ingresses.toList, GrantedBy cache name ingress

/-- `partGrants cache space minVersion tls` are the certificates that the part `tls` of an ingress
gives to the hosts that it lists. -/
def partGrants (cache : Cache) (space : String) (minVersion : MinTlsVersion) (tls : IngressTls) :
    List SecureGrant :=
  match grantedCertificate? cache space tls with
  | none => []
  | some certificate => tls.hosts.map fun host => ⟨host, certificate, minVersion⟩

/-- `ingressGrants cache ingress` are the certificates that an ingress gives, part by part. -/
def ingressGrants (cache : Cache) (ingress : Identity × Ingress) : List SecureGrant :=
  ingress.2.spec.tls.flatMap (partGrants cache ingress.1.space
    (MinTlsVersion.ofText (ingress.2.metadata.annotation Annotation.minTlsVersion)))

/-- `allGrants cache` are the certificates that the ingresses give, in the order in which they are
given.  A later one replaces an earlier one. -/
def allGrants (cache : Cache) : List SecureGrant :=
  cache.ingresses.toList.flatMap (ingressGrants cache)

/-- What is remembered does not matter for the certificates of an ingress. -/
theorem secureGrants_eq (space : String) (minVersion : MinTlsVersion) (parts : List IngressTls) :
    Answers cache (secureGrants cache space minVersion parts)
      (· = parts.flatMap (partGrants cache space minVersion)) := by
  induction parts with
  | nil => exact .pure rfl
  | cons tls rest ih =>
    rw [secureGrants, List.flatMap_cons]
    refine (grantedKeypair?_result space tls).answers.bind fun found hfound => ih.bind fun grants hgrants => ?_
    subst hgrants
    unfold partGrants
    rw [← hfound]
    cases found with
    | none => exact .pure rfl
    | some certificate => exact .pure rfl

namespace Building

/-- `b.certifiedAt host` is the certificate of a host over TLS with the lowest version that goes
with it, if the host is there. -/
def certifiedAt (host : String) (b : Building) : Option (Option KeyMaterial × MinTlsVersion) :=
  (b.secure.find? host).map fun h => (h.certificate, h.minVersion)

/-- Of several certificates that are given one after the other, a host keeps the last one that is
meant for it. -/
theorem certifiedAt_foldl_grants (host : String) (grants : List SecureGrant) (b : Building) :
    (grants.foldl (fun b g => b.onSecureHost g.host fun h =>
        { h with certificate := some g.certificate, minVersion := g.minVersion }) b).certifiedAt host =
      (((grants.filter (·.host = host)).getLast?).map fun g => (some g.certificate, g.minVersion)).or
        (b.certifiedAt host) := by
  refine foldl_filter_getLast? (certifiedAt host) _ _ (fun _ => True) (fun _ _ _ => trivial)
    (fun b g _ => ?_) grants trivial
  unfold certifiedAt onSecureHost
  rw [OrderedMap.find?_insert]
  by_cases hhost : g.host = host
  · simp [hhost]
  · simp [hhost, Ne.symm hhost]

/-- The last of the certificates that an ingress gives to a host is the one of the host. -/
theorem certifiedAt_addSecureGrants (host : String) (b : Building) (ingress : Identity × Ingress)
    (hb : b.lookups.Sound cache) :
    (b.addSecureGrants cache ingress).certifiedAt host =
      (((ingressGrants cache ingress).filter (·.host = host)).getLast?.map fun g =>
        (some g.certificate, g.minVersion)).or (b.certifiedAt host) := by
  have hgrants := look_answer (secureGrants_eq ingress.1.space
    (MinTlsVersion.ofText (ingress.2.metadata.annotation Annotation.minTlsVersion))
    ingress.2.spec.tls) hb
  unfold addSecureGrants
  have hlook : (b.look (secureGrants cache ingress.1.space
      (MinTlsVersion.ofText (ingress.2.metadata.annotation Annotation.minTlsVersion))
      ingress.2.spec.tls)).2.certifiedAt host = b.certifiedAt host := rfl
  simp only
  generalize b.look _ = found at hgrants hlook ⊢
  obtain ⟨grants, b'⟩ := found
  subst hgrants
  rw [← hlook]
  exact certifiedAt_foldl_grants host _ b'

end Building

/-- The last of the certificates that ingresses give to a host is the one of the host. -/
theorem certifiedAt_grantAll (cache : Cache) (host : String) :
    (grantAll cache).certifiedAt host = ((allGrants cache).filter (·.host = host)).getLast?.map fun g =>
      (some g.certificate, g.minVersion) := by
  rw [← List.getLast?_map, allGrants, List.filter_flatMap, List.map_flatMap]
  refine (foldl_getLast? (Building.certifiedAt host) _ (fun b : Building => b.lookups.Sound cache)
    (fun b ingress hb => (Building.addSecureGrants_follows b ingress hb).lookups hb)
    (fun b ingress hb => ?_) cache.ingresses.toList .empty).trans Option.or_none
  rw [Building.certifiedAt_addSecureGrants host b ingress hb, List.getLast?_map]

/-- The members of `partGrants` name one of the hosts of `tls` and the certificate that `tls`
names. -/
theorem mem_partGrants {space : String} {minVersion : MinTlsVersion} {tls : IngressTls} {g : SecureGrant} :
    g ∈ partGrants cache space minVersion tls ↔ ∃ certificate,
      grantedCertificate? cache space tls = some certificate ∧ ∃ host ∈ tls.hosts,
        ⟨host, certificate, minVersion⟩ = g := by
  unfold partGrants
  cases grantedCertificate? cache space tls with
  | none => simp
  | some certificate => simp

/-- There is a certificate for a name among `allGrants` exactly if the name is `Granted` one. -/
theorem exists_grant_iff : (∃ g ∈ allGrants cache, g.host = name) ↔ Granted cache name := by
  constructor
  · rintro ⟨g, hg, rfl⟩
    obtain ⟨ingress, hingress, hg⟩ := List.mem_flatMap.mp hg
    obtain ⟨tls, htls, hg⟩ := List.mem_flatMap.mp hg
    obtain ⟨certificate, hcertificate, host, hhost, rfl⟩ := mem_partGrants.mp hg
    exact ⟨ingress, hingress, tls, htls, hhost, by rw [hcertificate]; rfl⟩
  · rintro ⟨ingress, hingress, tls, htls, hhost, hcertificate⟩
    obtain ⟨certificate, hcertificate⟩ := Option.isSome_iff_exists.mp hcertificate
    -- the lowest version is the same for all parts of an ingress
    let minVersion := MinTlsVersion.ofText (ingress.2.metadata.annotation Annotation.minTlsVersion)
    have hpart : ⟨name, certificate, minVersion⟩ ∈ partGrants cache ingress.1.space minVersion tls :=
      mem_partGrants.mpr ⟨certificate, hcertificate, name, hhost, rfl⟩
    exact ⟨_, List.mem_flatMap.mpr ⟨ingress, hingress, List.mem_flatMap.mpr ⟨tls, htls, hpart⟩⟩, rfl⟩

/-- A host is there before any route is made exactly if it is given a certificate. -/
theorem certifiedAt_grantAll_isSome :
    ((grantAll cache).certifiedAt name).isSome ↔ Granted cache name := by
  rw [certifiedAt_grantAll, Option.isSome_map, List.getLast?_isSome, ne_eq, List.filter_eq_nil_iff,
    ← exists_grant_iff]
  simp

/-- Exactly the hosts that an ingress gives a certificate have one when the first root is served. -/
theorem certificate_addIngresses :
    ((addIngresses cache).secureAt name).certificate.isSome ↔ Granted cache name := by
  -- the routes of ingresses come after all certificates
  have hroutes : Building.KeepsSecure SecureHost.certificate (grantAll cache) (addIngresses cache) :=
    .foldl (fun b p _ => (Building.addIngress_keepsSecure p b).map Prod.fst) _
  have hcertificate : ((grantAll cache).secureAt name).certificate
      = ((grantAll cache).certifiedAt name).bind Prod.fst := by
    unfold Building.secureAt Building.certifiedAt
    cases (grantAll cache).secure.find? name <;> rfl
  rw [hroutes name, hcertificate, ← certifiedAt_grantAll_isSome, certifiedAt_grantAll]
  cases ((allGrants cache).filter (·.host = name)).getLast? <;> simp

end GatewayCompiler.Build
