import GatewayCompiler.Proofs.Building

/-!
# What ingresses do to a build

Ingresses make hosts and routes, and they are given certificates that they may use.  They leave no
mark on other objects.

## Main definitions

* `grantedCertificate?` — the certificate that a part of an ingress may use.
* `Grants` — a part of an ingress gives a certificate to a host.
* `grantAll` — the build in which all certificates are given.

## Main statements

* `grantedKeypair?_result` — certificates are only given where they may be used.
* `secureGrants_answers` — which certificates hosts get.
* `addIngresses_follows` — ingresses do no steps.
-/

namespace GatewayCompiler.Build

variable {cache : Cache}

/-- `grantedCertificate? cache space tls` is the certificate that the part `tls` of an ingress
names, if it is a certificate with its key and may be used in the namespace of the ingress. -/
def grantedCertificate? (cache : Cache) (space : String) (tls : IngressTls) : Option KeyMaterial :=
  (nonEmpty? tls.secretName).bind fun reference =>
    (cache.keypair? (.ofReference reference space)).filter fun _ =>
      cache.permits (.ofReference reference space) space

/-- A certificate that a part of an ingress is given is named there, and the ingress may use it. -/
theorem exists_of_grantedCertificate? {space : String} {tls : IngressTls}
    {certificate : KeyMaterial} (h : grantedCertificate? cache space tls = some certificate) :
    ∃ reference, nonEmpty? tls.secretName = some reference ∧
      cache.keypair? (.ofReference reference space) = some certificate ∧
      cache.permits (.ofReference reference space) space := by
  obtain ⟨reference, hname, hgranted⟩ := Option.bind_eq_some_iff.mp h
  obtain ⟨hkeypair, hpermits⟩ := Option.filter_eq_some_iff.mp hgranted
  exact ⟨reference, hname, hkeypair, hpermits⟩

/-- A grant needs a name, a certificate under the name and the permission to use it. -/
theorem grantedKeypair?_result (space : String) (tls : IngressTls) :
    OneSecret cache (· = grantedCertificate? cache space tls) (grantedKeypair? cache space tls) := by
  unfold grantedKeypair? grantedCertificate?
  cases nonEmpty? tls.secretName with
  | none => exact .answered rfl
  | some reference =>
    refine .filtered _ KeyMaterial.hasKeypair fun found => ?_
    cases found with
    | none => exact ⟨_, rfl, fun hfound => by rw [Option.bind_some, Cache.keypair?, ← hfound]; rfl⟩
    | some keys =>
      simp only
      split
      · next hpermits =>
        exact ⟨_, rfl, fun hfound => by
          rw [Option.bind_some, Cache.keypair?, ← hfound]
          simp [Option.filter, hpermits]⟩
      · next hpermits =>
        exact ⟨_, rfl, fun hfound => by
          rw [Option.bind_some, Cache.keypair?, ← hfound]
          simp [Option.filter, hpermits]⟩

/-- `Grants cache space tls host certificate` says that the part `tls` of an ingress gives
`certificate` to `host`. -/
structure Grants (cache : Cache) (space : String) (tls : IngressTls) (host : String)
    (certificate : KeyMaterial) : Prop where
  /-- The host is named. -/
  host : host ∈ tls.hosts
  /-- The certificate is found for the part. -/
  found : Yields cache (grantedKeypair? cache space tls) (some certificate)

/-- The hosts of an ingress get the certificates of its parts, each of them by `Grants`. -/
theorem secureGrants_answers (space : String) (minVersion : MinTlsVersion)
    (entries : List IngressTls) :
    Answers cache (secureGrants cache space minVersion entries) fun grants =>
      ∀ g ∈ grants, ∃ tls ∈ entries, Grants cache space tls g.host g.certificate := by
  -- over the blocks: each gives its hosts one certificate or none
  induction entries with
  | nil => exact .pure (by simp)
  | cons tls rest ih =>
    rw [secureGrants]
    refine (grantedKeypair?_result space tls).answers.yields.bind fun found hfound => ?_
    refine ih.bind fun grants hgrants => ?_
    have hrest : ∀ g ∈ grants, ∃ t ∈ tls :: rest, Grants cache space t g.host g.certificate := by
      intro g hg
      obtain ⟨t, ht, hgranted⟩ := hgrants g hg
      exact ⟨t, List.mem_cons_of_mem _ ht, hgranted⟩
    cases found with
    | none => exact .pure hrest
    | some certificate =>
      refine .pure fun g hg => ?_
      rcases List.mem_append.mp hg with hg | hg
      · obtain ⟨host, hhost, rfl⟩ := List.mem_map.mp hg
        exact ⟨tls, List.mem_cons_self, hhost, hfound⟩
      · exact hrest g hg

namespace Building

/-! ### No marks on other objects -/

/-- Operations that do no steps do none when they are repeated over `items`. -/
theorem follows_foldl_nil {α : Type} {op : Building → α → Building}
    (h : ∀ b a, b.lookups.Sound cache → Follows cache [] b (op b a)) (items : List α)
    {b : Building} (hb : b.lookups.Sound cache) : Follows cache [] b (items.foldl op b) := by
  have hfold := Follows.foldl h items b hb
  rwa [List.flatMap_eq_nil_iff.mpr fun _ _ => rfl] at hfold

theorem addSecureGrants_follows (b : Building) (ingress : Identity × Ingress)
    (hb : b.lookups.Sound cache) : Follows cache [] b (b.addSecureGrants cache ingress) := by
  unfold addSecureGrants
  have hlook : Follows cache [] b _ := look_follows (secureGrants_answers ingress.1.space
    (MinTlsVersion.ofText (ingress.2.metadata.annotation Annotation.minTlsVersion))
    ingress.2.spec.tls) b
  simp only
  generalize b.look _ = found at hlook ⊢
  obtain ⟨grants, b'⟩ := found
  exact hlook.append
    (follows_foldl_nil (fun _ _ _ => onSecureHost_follows _ _ _) grants (hlook.lookups hb))

theorem attachIngress_follows (m : Metadata) (host : String) (route : Route) (b : Building) :
    Follows cache [] b (b.attachIngress m host route) := by
  have hplain : Follows cache [] b
      (if m.httpAllowed || m.tlsRequired then b.onPlainHost host (·.addRoute route) else b) := by
    split
    · exact onPlainHost_follows _ _ _
    · exact .refl b
  unfold attachIngress
  generalize (if m.httpAllowed || m.tlsRequired then b.onPlainHost host (·.addRoute route) else b)
    = b' at hplain ⊢
  simp only
  split
  · exact hplain.append (onSecureHost_follows _ _ _)
  · exact hplain

theorem addIngressEntry_follows (space : String) (m : Metadata) (b : Building)
    (entry : IngressEntry) : Follows cache [] b (b.addIngressEntry cache space m entry) := by
  unfold addIngressEntry
  cases entry.backend? space with
  | none => exact .refl b
  | some named =>
    obtain ⟨service, selector⟩ := named
    have hlook : Follows cache [] b _ := look_follows (lookupBackend_answers service selector none) b
    simp only
    generalize b.look _ = found at hlook ⊢
    obtain ⟨backend, b'⟩ := found
    cases backend with
    | none => exact hlook
    | some backend => exact hlook.append (attachIngress_follows _ _ _ _)

theorem addIngress_follows (b : Building) (ingress : Identity × Ingress)
    (hb : b.lookups.Sound cache) : Follows cache [] b (b.addIngress cache ingress) :=
  follows_foldl_nil (fun _ _ _ => addIngressEntry_follows _ _ _ _) _ hb

end Building

/-- `grantAll cache` is the build in which all certificates of ingresses are given, before any of
their routes is made. -/
def grantAll (cache : Cache) : Building :=
  cache.ingresses.toList.foldl (Building.addSecureGrants cache) {}

theorem grantAll_follows (cache : Cache) : Follows cache [] {} (grantAll cache) :=
  Building.follows_foldl_nil Building.addSecureGrants_follows _ .empty

/-- Ingresses do no steps, as they are not walked: they record no status. -/
theorem addIngresses_follows (cache : Cache) : Follows cache [] {} (addIngresses cache) := by
  have hgrants := grantAll_follows cache
  exact hgrants.append
    (Building.follows_foldl_nil Building.addIngress_follows _ (hgrants.lookups .empty))

end GatewayCompiler.Build
