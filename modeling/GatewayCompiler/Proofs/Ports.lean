import GatewayCompiler.Proofs.Frame
import GatewayCompiler.Proofs.Hosts

/-!
# Ports are resolved once

A service may list a number twice, under different names, and a reference finds one of the two.  The
first port that is found under a number is remembered for the whole build, so that all clusters of a
graph for a number of a service point at the same port, whether a route, a forwarding or an ingress
has asked for it.

## Main definitions

* `Lookups.KeptIn` — the ports that are known stay known.
* `Fixes` — a look-up keeps the known ports, and its answer is as described by what is known then.
* `Pinned` — a cluster points at the port that is known under its number.

## Main statements

* `lookupPort_fixes` — a port that is found is known from then on.
* `buildAll_pinned` — all clusters of a build point at known ports.
* `target_eq_of_visits` — the clusters of a graph for the same number of a service.
-/

namespace GatewayCompiler.Build

variable {engine : Pattern.Engine} {α β : Type} {cache : Cache} {known known' known'' : Lookups}

/-! ### What stays known -/

/-- `known.KeptIn known'` says that all ports that are known in `known` stay known. -/
def Lookups.KeptIn (known known' : Lookups) : Prop :=
  ∀ key resolved, known.ports.find? key = some resolved → known'.ports.find? key = some resolved

theorem Lookups.KeptIn.refl (known : Lookups) : known.KeptIn known := fun _ _ h => h

theorem Lookups.KeptIn.trans (h : known.KeptIn known') (h' : known'.KeptIn known'') :
    known.KeptIn known'' :=
  fun key resolved hfind => h' key resolved (h key resolved hfind)

/-- `Fixes cache known action Q` says that from the look-ups `known` on, `action` keeps the known
ports and what the cache says, and its answer is as described by what is known behind it. -/
structure Fixes (cache : Cache) (known : Lookups) (action : StateM Lookups α)
    (Q : Lookups → α → Prop) : Prop where
  /-- The known ports stay known. -/
  kept : known.KeptIn (action.run known).2
  /-- Only what the cache says is remembered. -/
  sound : (action.run known).2.Sound cache
  /-- The answer is as described. -/
  holds : Q (action.run known).2 (action.run known).1

namespace Fixes

variable {Q : Lookups → α → Prop} {R : Lookups → β → Prop}

theorem pure {a : α} (hknown : known.Sound cache) (h : Q known a) :
    Fixes cache known (Pure.pure a) Q :=
  ⟨.refl known, hknown, h⟩

/-- Actions one after the other: what the first one has made known stays known for the second
one. -/
theorem bind {action : StateM Lookups α} {next : α → StateM Lookups β}
    (h : Fixes cache known action Q)
    (hnext : ∀ known' a, known'.Sound cache → known.KeptIn known' → Q known' a →
      Fixes cache known' (next a) R) : Fixes cache known (action >>= next) R := by
  have hrest := hnext _ _ h.sound h.kept h.holds
  exact ⟨h.kept.trans hrest.kept, hrest.sound, hrest.holds⟩

/-- Actions one after the other, the first of which may fail. -/
theorem bindAttempt {action : Attempt α} {next : α → Attempt β}
    {Q : Lookups → Except Problem α → Prop} {R : Lookups → Except Problem β → Prop}
    (h : Fixes cache known action.run Q)
    (hok : ∀ known' a, known'.Sound cache → known.KeptIn known' → Q known' (.ok a) →
      Fixes cache known' (next a).run R)
    (herror : ∀ known' problem, R known' (.error problem)) :
    Fixes cache known (action >>= next).run R := by
  rw [ExceptT.run_bind]
  refine h.bind fun known' result hsound hkept hresult => ?_
  cases result with
  | ok a => exact hok known' a hsound hkept hresult
  | error problem => exact .pure hsound (herror known' problem)

/-- An action that cannot fail comes before a part of a build that may fail. -/
theorem bindLift {action : StateM Lookups α} {next : α → Attempt β}
    {R : Lookups → Except Problem β → Prop} (h : Fixes cache known action Q)
    (hnext : ∀ known' a, known'.Sound cache → known.KeptIn known' → Q known' a →
      Fixes cache known' (next a).run R) :
    Fixes cache known (ExceptT.run (liftM action >>= next)) R := by
  have hrest := hnext _ _ h.sound h.kept h.holds
  exact ⟨h.kept.trans hrest.kept, hrest.sound, hrest.holds⟩

/-- A `check` that looks nothing up comes before the rest. -/
theorem bindExcept {check : Except Problem α} {next : α → Attempt β}
    {R : Lookups → Except Problem β → Prop} (hknown : known.Sound cache)
    (hok : ∀ a, check = .ok a → Fixes cache known (next a).run R)
    (herror : ∀ problem, R known (.error problem)) :
    Fixes cache known (ExceptT.run ((liftM check : Attempt α) >>= next)) R := by
  cases check with
  | ok a => exact hok a rfl
  | error problem => exact .pure hknown (herror problem)

end Fixes

/-- `PortFree action` says that `action` asks for no ports: it keeps the ports as they are. -/
def PortFree (action : StateM Lookups α) : Prop :=
  ∀ known : Lookups, (action.run known).2.ports = known.ports

namespace PortFree

theorem pure (a : α) : PortFree (Pure.pure a) := fun _ => rfl

theorem bind {action : StateM Lookups α} {next : α → StateM Lookups β} (h : PortFree action)
    (hnext : ∀ a, PortFree (next a)) : PortFree (action >>= next) :=
  fun known => (hnext _ _).trans (h known)

/-- An action that asks for no ports keeps those that are known, so that `Answers` is all that there
is to show. -/
theorem fixes {action : StateM Lookups α} (h : PortFree action) {Q : α → Prop}
    (hanswers : Answers cache action Q) (hknown : known.Sound cache) :
    Fixes cache known action fun _ => Q where
  kept := by
    intro key resolved hfind
    rwa [h known]
  sound := (hanswers known hknown).2
  holds := (hanswers known hknown).1

end PortFree

/-! ### Ports -/

/-- `portKey t` is the number of a service that the target `t` stands for. -/
def portKey (t : BackendTarget) : PortKey := ⟨t.service, t.portNumber⟩

/-- `Known known t` says that the target `t` is the port that is known under its number. -/
def Known (known : Lookups) (t : BackendTarget) : Prop :=
  ∃ resolved, known.ports.find? (portKey t) = some resolved ∧ resolved.target = t

theorem Known.mono {t : BackendTarget} (h : Known known t) (hkept : known.KeptIn known') :
    Known known' t := by
  obtain ⟨resolved, hfind, htarget⟩ := h
  exact ⟨resolved, hkept _ _ hfind, htarget⟩

/-- Only one target is known for a number of a service, whatever name it was asked for by. -/
theorem Known.eq {t t' : BackendTarget} (h : Known known t) (h' : Known known t')
    (hkey : portKey t = portKey t') : t = t' := by
  obtain ⟨resolved, hfind, rfl⟩ := h
  obtain ⟨resolved', hfind', rfl⟩ := h'
  rw [hkey, hfind'] at hfind
  cases hfind
  rfl

/-- What is known under a number of a service is a port with this number. -/
theorem portKey_of_sound (hknown : known.Sound cache) {key : PortKey} {resolved : ResolvedPort}
    (hfind : known.ports.find? key = some resolved) : portKey resolved.target = key := by
  obtain ⟨service, port, -, -, hnumber, rfl⟩ := hknown.ports key resolved hfind
  rw [portKey, resolvePort, hnumber]

/-- A port that is found is known from then on: the memo answers all later requests for its
number. -/
theorem lookupPort_fixes (hknown : known.Sound cache) (identity : Identity)
    (selector : PortSelector) :
    Fixes cache known (lookupPort cache identity selector) fun known' found =>
      ∀ resolved, found = some resolved → Known known' resolved.target := by
  have hsound := (lookupPort_answers identity selector known hknown).2
  unfold lookupPort at hsound ⊢
  cases h : findPort? cache identity selector with
  | none => exact .pure hknown (by rintro _ ⟨⟩)
  | some found =>
    obtain ⟨service, port⟩ := found
    simp only [h, StateT.run_bind, StateT.run_get, pure_bind] at hsound
    cases hmemo : known.ports.find? ⟨identity, port.number⟩ with
    | some resolved =>
      have hknows : Known known resolved.target :=
        ⟨resolved, by rw [portKey_of_sound hknown hmemo, hmemo], rfl⟩
      constructor
      all_goals simp only [StateT.run_bind, StateT.run_get, pure_bind, hmemo]
      · exact .refl known
      · simpa only [hmemo] using hsound
      · rintro _ ⟨⟩
        exact hknows
    | none =>
      constructor
      all_goals simp only [StateT.run_bind, StateT.run_get, pure_bind, hmemo, StateT.run_set]
      · -- the number was not known, so that no other port is replaced
        intro key resolved hfind
        change OrderedMap.find? (known.ports.insert ⟨identity, port.number⟩
          (resolvePort identity service port)) key = some resolved
        rw [OrderedMap.find?_insert_of_ne]
        · exact hfind
        · rintro rfl
          rw [hmemo] at hfind
          cases hfind
      · simpa only [hmemo, StateT.run_bind, StateT.run_set, pure_bind] using hsound
      · rintro _ ⟨⟩
        exact ⟨_, OrderedMap.find?_insert_self .., rfl⟩

theorem lookupBackend_fixes (hknown : known.Sound cache) (identity : Identity)
    (selector : PortSelector) (given : Option Protocol) :
    Fixes cache known (lookupBackend cache identity selector given) fun known' found =>
      ∀ backend, found = some backend → Known known' backend.target := by
  refine (lookupPort_fixes hknown identity selector).bind fun known' found hsound _ hfound => ?_
  cases found with
  | none => exact .pure hsound (by rintro _ ⟨⟩)
  | some resolved =>
    refine .pure hsound ?_
    rintro _ ⟨⟩
    exact hfound resolved rfl

/-! ### Secrets -/

theorem lookupSecret_portFree (identity : Identity) : PortFree (lookupSecret cache identity) := by
  intro known
  unfold lookupSecret
  simp only [StateT.run_bind, StateT.run_get, pure_bind]
  split
  · rfl
  · split
    · rfl
    · rfl

namespace OneSecret

variable {P : α → Prop} {action : StateM Lookups α}

theorem portFree (h : OneSecret cache P action) : PortFree action := by
  cases h with
  | answered holds => exact .pure _
  | asked identity answers =>
    refine (lookupSecret_portFree identity).bind fun found => ?_
    obtain ⟨a, hnext, -⟩ := answers found
    rw [hnext]
    exact .pure _

/-- For a secret the known ports stay as they are. -/
theorem fixes (h : OneSecret cache P action) (hknown : known.Sound cache) :
    Fixes cache known action fun _ => P :=
  h.portFree.fixes h.answers hknown

end OneSecret

theorem secureGrants_portFree (space : String) (minVersion : MinTlsVersion)
    (parts : List IngressTls) : PortFree (secureGrants cache space minVersion parts) := by
  induction parts with
  | nil => exact .pure _
  | cons tls rest ih =>
    rw [secureGrants]
    refine (grantedKeypair?_result space tls).portFree.bind fun certificate =>
      ih.bind fun grants => ?_
    split
    · exact .pure _
    · exact .pure _

/-! ### Clusters -/

/-- `Pinned known c` says that the cluster `c` points at the port that is known under its number,
and its server name is the one of the port. -/
structure Pinned (known : Lookups) (c : Cluster) : Prop where
  /-- The port is known. -/
  known : Known known c.backend.target
  /-- The server name is the one of the port. -/
  sni : c.sni = c.backend.target.externalName

theorem Pinned.mono {c : Cluster} (h : Pinned known c) (hkept : known.KeptIn known') :
    Pinned known' c :=
  ⟨h.known.mono hkept, h.sni⟩

/-- The cluster for a service points at a known port, so that it is `Pinned`. -/
theorem buildCluster_fixes (hknown : known.Sound cache) (space : String) (s : ServiceSpec) :
    Fixes cache known (buildCluster cache space s).run fun known' result =>
      ∀ c problems, result = .ok (c, problems) → Pinned known' c := by
  unfold buildCluster
  refine .bindExcept hknown (fun _ _ => ?_) (by rintro _ _ _ ⟨⟩)
  refine .bindExcept hknown (fun given _ => ?_) (by rintro _ _ _ ⟨⟩)
  refine (lookupBackend_fixes hknown _ _ _).bindLift fun known' found hsound _ hfound => ?_
  cases found with
  | none => exact .pure hsound (by rintro _ _ ⟨⟩)
  | some backend =>
    have hport := hfound backend rfl
    simp only
    split
    -- the secrets are looked up behind the port, which stays known
    · have hvalidation := (buildValidation_result space s).fixes hsound
      refine hvalidation.bindAttempt (fun known₁ validation hsound₁ hkept₁ _ => ?_)
        (by rintro _ _ _ _ ⟨⟩)
      have hkeys := (buildClientCertificate_result space s).fixes hsound₁
      refine hkeys.bindAttempt (fun known₂ keys hsound₂ hkept₂ _ => ?_) (by rintro _ _ _ _ ⟨⟩)
      refine .pure hsound₂ ?_
      rintro c problems ⟨⟩
      exact ⟨hport.mono (hkept₁.trans hkept₂), rfl⟩
    · refine .pure hsound ?_
      rintro c problems ⟨⟩
      exact ⟨hport, rfl⟩

theorem buildClusters_fixes (hknown : known.Sound cache) (space : String)
    (services : List ServiceSpec) :
    Fixes cache known (buildClusters cache space services) fun known' result =>
      ∀ c ∈ result.1, Pinned known' c := by
  induction services generalizing known with
  | nil => exact .pure hknown (by simp)
  | cons s rest ih =>
    rw [buildClusters]
    refine (buildCluster_fixes hknown space s).bind fun known₁ built hsound₁ _ hbuilt => ?_
    -- what the first service has remembered is there for the others, and remains
    refine (ih hsound₁).bind fun known₂ result hsound₂ hkept₂ hresult => ?_
    cases built with
    | error problem => exact .pure hsound₂ hresult
    | ok made =>
      refine .pure hsound₂ fun c hc => ?_
      rcases List.mem_cons.mp hc with rfl | hc
      · exact (hbuilt _ _ rfl).mono hkept₂
      · exact hresult c hc

theorem buildRoute_fixes (hknown : known.Sound cache) (space : String) (spec : RouteSpec)
    (conditions : List Condition) :
    Fixes cache known (buildRoute cache space spec conditions) fun known' result =>
      ∀ route, result.1 = some route → ∀ c ∈ route.clusters, Pinned known' c := by
  unfold buildRoute
  split
  · exact .pure hknown (by rintro _ ⟨⟩)
  · simp only
    refine (buildClusters_fixes hknown space spec.services).bind
      fun known' result hsound _ hresult => .pure hsound ?_
    intro route hroute
    obtain ⟨clusters, problems⟩ := result
    cases clusters with
    | nil => cases hroute
    | cons c clusters =>
      cases hroute
      exact hresult

theorem forwardClusters_fixes (hknown : known.Sound cache) (space : String)
    (services : List ServiceSpec) :
    Fixes cache known (Building.forwardClusters cache space services) fun known' result =>
      ∀ clusters, result = .ok clusters → ∀ c ∈ clusters, Pinned known' c := by
  induction services generalizing known with
  | nil =>
    refine .pure hknown ?_
    rintro _ ⟨⟩
    simp
  | cons s rest ih =>
    rw [Building.forwardClusters]
    -- a missing port ends the list with an error, for which nothing is claimed
    refine (lookupPort_fixes hknown _ _).bind fun known₁ found hsound₁ _ hfound => ?_
    cases found with
    | none => exact .pure hsound₁ (by rintro _ ⟨⟩)
    | some resolved =>
      refine (ih hsound₁).bind fun known₂ result hsound₂ hkept₂ hresult => .pure hsound₂ ?_
      intro clusters hclusters
      cases result with
      | error problem => cases hclusters
      | ok later =>
        cases hclusters
        intro c hc
        rcases List.mem_cons.mp hc with rfl | hc
        · exact ⟨(hfound resolved rfl).mono hkept₂, rfl⟩
        · exact hresult later rfl c hc

namespace Building

/-- `b.AllPinned` says that all clusters of the build `b` point at known ports. -/
def AllPinned (b : Building) : Prop :=
  b.AllHosts (·.AllClusters (Pinned b.lookups)) fun _ h => h.host.AllClusters (Pinned b.lookups)

variable {b : Building}

/-- Clusters stay pinned when something is looked up, as known ports are kept. -/
theorem AllPinned.look (hall : b.AllPinned) {action : StateM Lookups α} {Q : Lookups → α → Prop}
    (h : Fixes cache b.lookups action Q) : (b.look action).2.AllPinned where
  plain := fun name host hfind =>
    (hall.plain name host hfind).mono fun _ hc => hc.mono h.kept
  secure := fun name host hfind =>
    (hall.secure name host hfind).mono fun _ hc => hc.mono h.kept

/-- Changes of what is neither a host nor a look-up do not matter. -/
theorem AllPinned.congr (hall : b.AllPinned) {b' : Building} (hplain : b'.plain = b.plain)
    (hsecure : b'.secure = b.secure) (hlookups : b'.lookups = b.lookups) : b'.AllPinned := by
  unfold AllPinned
  rw [hlookups]
  exact AllHosts.congr hall hplain hsecure

theorem AllPinned.report (hall : b.AllPinned) (object : ObjectRef) (problems : List Problem)
    (host : String) : (b.report object problems host).AllPinned := by
  obtain ⟨statuses, heq⟩ := report_eq object problems host b
  rw [heq]
  exact hall.congr rfl rfl rfl

theorem AllPinned.onPlainHost (hall : b.AllPinned) {name : String}
    {change : VirtualHost → VirtualHost}
    (hchange : ∀ h : VirtualHost, h.AllClusters (Pinned b.lookups) →
      (change h).AllClusters (Pinned b.lookups)) : (b.onPlainHost name change).AllPinned :=
  AllHosts.onPlainHost hall (.new name) hchange

theorem AllPinned.onSecureHost (hall : b.AllPinned) {name : String}
    {change : SecureHost → SecureHost}
    (hchange : ∀ h : SecureHost, h.host.AllClusters (Pinned b.lookups) →
      (change h).host.AllClusters (Pinned b.lookups)) : (b.onSecureHost name change).AllPinned :=
  AllHosts.onSecureHost hall (.new name) hchange

/-! ### Walks -/

theorem AllPinned.attach (hall : b.AllPinned) (place : Place) {route : Route}
    (permitInsecure : Bool) (hroute : ∀ c ∈ route.clusters, Pinned b.lookups c) :
    (b.attach place route permitInsecure).AllPinned := by
  have hplain : (b.onPlainHost place.host (·.addRoute
      { route with httpsUpgrade := place.enforceTls && !permitInsecure })).AllPinned :=
    hall.onPlainHost fun _ hh => hh.addRoute hroute
  unfold Building.attach
  simp only
  split
  · exact hplain.onSecureHost fun _ hh => hh.addRoute hroute
  · exact hplain

theorem AllPinned.serve (hall : b.AllPinned) (hb : b.lookups.Sound cache) (place : Place)
    (object : ObjectRef) (spec : RouteSpec) (conditions : List Condition) :
    (b.serve cache place object spec conditions).AllPinned := by
  unfold Building.serve
  have hfixes := buildRoute_fixes hb object.identity.space spec conditions
  have hlook := hall.look hfixes
  -- what the route is and what is known then come from the same look-up
  have hroute := hfixes.holds
  change ∀ route, (b.look (buildRoute cache object.identity.space spec conditions)).1.1 = some route →
    ∀ c ∈ route.clusters,
      Pinned (b.look (buildRoute cache object.identity.space spec conditions)).2.lookups c at hroute
  generalize b.look (buildRoute cache object.identity.space spec conditions) = found
    at hlook hroute ⊢
  obtain ⟨⟨route, problems⟩, b'⟩ := found
  have hreport := hlook.report object problems place.host
  cases route with
  | none => exact hreport
  | some route =>
    refine hreport.attach place spec.permitInsecure ?_
    obtain ⟨statuses, heq⟩ := report_eq object problems place.host b'
    rw [heq]
    exact hroute route rfl

theorem AllPinned.forward (hall : b.AllPinned) (hb : b.lookups.Sound cache) (place : Place)
    (owner : Identity) (services : List ServiceSpec) :
    (b.forward cache place owner services).AllPinned := by
  unfold Building.forward
  have hfixes := forwardClusters_fixes hb owner.space services
  have hlook := hall.look hfixes
  have hclusters := hfixes.holds
  change ∀ clusters, (b.look (forwardClusters cache owner.space services)).1 = .ok clusters →
    ∀ c ∈ clusters, Pinned (b.look (forwardClusters cache owner.space services)).2.lookups c
    at hclusters
  generalize b.look (forwardClusters cache owner.space services) = found at hlook hclusters ⊢
  obtain ⟨clusters, b'⟩ := found
  cases clusters with
  | error problem => exact hlook.congr rfl rfl rfl
  | ok clusters =>
    have hhost : (b'.onSecureHost place.host fun h =>
        { h with host := { h.host with tcpProxy := some clusters } }).AllPinned :=
      hlook.onSecureHost fun _ hh => hh.forwardTo (hclusters clusters rfl)
    exact hhost.congr rfl rfl rfl

theorem AllPinned.take (hall : b.AllPinned) (hb : b.lookups.Sound cache) (place : Place)
    (s : Step) : (b.take cache place s).AllPinned := by
  cases s with
  | serve object route conditions => exact hall.serve hb place object route conditions
  | forward owner services => exact hall.forward hb place owner services
  | reach target => exact hall.congr rfl rfl rfl
  | merge identity => exact hall.congr rfl rfl rfl
  | settle object outcome => exact hall.congr rfl rfl rfl

theorem AllPinned.takeAll (hall : b.AllPinned) (hb : b.lookups.Sound cache) (place : Place)
    (steps : List Step) : (b.takeAll cache place steps).AllPinned := by
  induction steps generalizing b with
  | nil => exact hall
  | cons s rest ih => exact ih (hall.take hb place s) ((take_follows place b s).lookups hb)

/-! ### Roots and ingresses -/

theorem AllPinned.openRoot (hall : b.AllPinned) (root : Identity) (host : GatewayHost)
    (v : VirtualHostSpec) (mode : TlsMode) : (b.openRoot cache root host v mode).AllPinned := by
  unfold Building.openRoot
  generalize resolveFilters cache .virtualHost root.space v.filters = found
  obtain ⟨filters, problems⟩ := found
  have hreport := hall.report (hostRef root) problems v.domain
  -- the modes differ in the hosts that they open, and none of them brings a cluster
  cases mode with
  | off => exact hreport.onPlainHost fun _ hh => hh.addFilters filters
  | terminate certificate minVersion =>
    have hsecure : ((b.report (hostRef root) problems v.domain).onSecureHost v.domain fun h =>
        { host := h.host.addFilters filters
          certificate := some certificate, minVersion }).AllPinned :=
      hreport.onSecureHost fun _ hh => hh.addFilters filters
    simp only
    split
    · exact hsecure
    · exact hsecure.onPlainHost fun _ hh => hh.addFilters filters
  | passthrough =>
    have hsecure : (b.onSecureHost v.domain id).AllPinned := hall.onSecureHost fun _ hh => hh
    simp only
    split
    · exact hsecure
    · exact (hsecure.report (hostRef root) problems v.domain).onPlainHost
        fun _ hh => hh.addFilters filters

theorem AllPinned.addRoot (hall : b.AllPinned) (hb : b.lookups.Sound cache)
    (root : Identity × GatewayHost) : (b.addRoot cache root).AllPinned := by
  unfold Building.addRoot
  cases root.2.virtualHost with
  | none => exact hall
  | some v =>
    simp only
    split
    · exact hall
    -- the check of a root asks for secrets only
    · have hfixes := (checkRoot_result root.1 v).fixes hb
      have hlook := hall.look hfixes
      have hsound := hfixes.sound
      change (b.look (checkRoot cache root.1 v).run).2.lookups.Sound cache at hsound
      generalize b.look (checkRoot cache root.1 v).run = found at hlook hsound ⊢
      obtain ⟨mode, b'⟩ := found
      cases mode with
      | error problem => exact hlook.congr rfl rfl rfl
      | ok mode =>
        simp only
        rw [enterRoot_eq]
        exact (hlook.openRoot root.1 root.2 v mode).takeAll
          ((openRoot_follows root.1 root.2 v mode b').lookups hsound) _ _

theorem AllPinned.addSecureGrants (hall : b.AllPinned) (hb : b.lookups.Sound cache)
    (ingress : Identity × Ingress) : (b.addSecureGrants cache ingress).AllPinned := by
  unfold Building.addSecureGrants
  have hlook := hall.look ((secureGrants_portFree ingress.1.space
    (MinTlsVersion.ofText (ingress.2.metadata.annotation Annotation.minTlsVersion))
    ingress.2.spec.tls).fixes (secureGrants_answers _ _ _) hb)
  simp only
  generalize b.look _ = found at hlook ⊢
  obtain ⟨grants, b'⟩ := found
  refine List.foldlRecOn (motive := AllPinned) _ _ hlook ?_
  intro b' hb' g _
  exact hb'.onSecureHost fun _ hh => hh

theorem AllPinned.addIngressEntry (hall : b.AllPinned) (hb : b.lookups.Sound cache)
    (space : String) (m : Metadata) (entry : IngressEntry) :
    (b.addIngressEntry cache space m entry).AllPinned := by
  unfold Building.addIngressEntry
  cases entry.backend? space with
  | none => exact hall
  | some named =>
    obtain ⟨service, selector⟩ := named
    have hfixes := lookupBackend_fixes hb service selector none
    have hlook := hall.look hfixes
    have hbackend := hfixes.holds
    change ∀ backend, (b.look (lookupBackend cache service selector none)).1 = some backend →
      Known (b.look (lookupBackend cache service selector none)).2.lookups backend.target at hbackend
    simp only
    generalize b.look _ = found at hlook hbackend ⊢
    obtain ⟨backend, b'⟩ := found
    cases backend with
    | none => exact hlook
    | some backend =>
      -- the route has the cluster of the port that was just remembered
      have hroute : ∀ c ∈ (ingressRoute m entry.path backend).clusters, Pinned b'.lookups c := by
        intro c hc
        rw [List.mem_singleton.mp hc]
        exact ⟨hbackend backend rfl, rfl⟩
      have hplain : (if m.httpAllowed || m.tlsRequired then
          b'.onPlainHost entry.host (·.addRoute (ingressRoute m entry.path backend))
          else b').AllPinned := by
        split
        · exact hlook.onPlainHost fun _ hh => hh.addRoute hroute
        · exact hlook
      have hlookups : (if m.httpAllowed || m.tlsRequired then
          b'.onPlainHost entry.host (·.addRoute (ingressRoute m entry.path backend))
          else b').lookups = b'.lookups := by
        split
        · rfl
        · rfl
      simp only [Building.attachIngress]
      rw [← hlookups] at hroute
      generalize (if m.httpAllowed || m.tlsRequired then
        b'.onPlainHost entry.host (·.addRoute (ingressRoute m entry.path backend)) else b') = b''
        at hplain hroute ⊢
      split
      · exact hplain.onSecureHost fun _ hh => hh.addRoute hroute
      · exact hplain

end Building

/-- All clusters point at known ports after the passes over the ingresses. -/
theorem addIngresses_pinned (cache : Cache) :
    (addIngresses cache).lookups.Sound cache ∧ (addIngresses cache).AllPinned := by
  -- first the certificates and then the routes, over the ingresses both times
  unfold addIngresses
  have hgrants := List.foldlRecOn (motive := fun b : Building =>
    b.lookups.Sound cache ∧ b.AllPinned) cache.ingresses.toList (Building.addSecureGrants cache)
    ⟨.empty, .empty⟩ (by
      rintro b ⟨hsound, hall⟩ p -
      exact ⟨(Building.addSecureGrants_follows b p hsound).lookups hsound,
        hall.addSecureGrants hsound p⟩)
  refine List.foldlRecOn (motive := fun b : Building => b.lookups.Sound cache ∧ b.AllPinned) _ _
    hgrants ?_
  intro b hb p _
  refine List.foldlRecOn (motive := fun b : Building => b.lookups.Sound cache ∧ b.AllPinned) _ _
    hb ?_
  rintro b' ⟨hsound, hall⟩ entry -
  exact ⟨(Building.addIngressEntry_follows _ _ b' entry).lookups hsound,
    hall.addIngressEntry hsound _ _ entry⟩

/-- All clusters point at known ports after all passes, by the steps of every walk. -/
theorem buildAll_pinned [Pattern.Engine] (cache : Cache) : (buildAll cache).AllPinned := by
  obtain ⟨hsound, hall⟩ := addIngresses_pinned cache
  obtain ⟨statuses, orphans, hsort⟩ := sortHosts_eq cache (addIngresses cache)
  have hsorted : (sortHosts cache (addIngresses cache)).lookups.Sound cache ∧
      (sortHosts cache (addIngresses cache)).AllPinned := by
    rw [hsort]
    exact ⟨hsound, hall.congr rfl rfl rfl⟩
  unfold buildAll
  refine (List.foldlRecOn (motive := fun b : Building => b.lookups.Sound cache ∧ b.AllPinned)
    _ _ hsorted ?_).2
  rintro b ⟨hsound, hall⟩ p -
  exact ⟨(Building.addRoot_follows b p hsound).lookups hsound, hall.addRoot hsound p⟩

/-! ### The clusters of a graph -/

/-- All clusters of a graph point at ports that were known in the end. -/
theorem pinned_of_visit {c : Cluster} (hc : .cluster c ∈ (Graph.build cache).visits) :
    Pinned (buildAll cache).lookups c := by
  have hall := buildAll_pinned cache
  obtain ⟨statuses, heq⟩ := Building.recordOrphans_eq cache (buildAll cache)
  unfold Graph.build at hc
  rw [heq] at hc
  -- a cluster of the graph belongs to a host of one of the two maps
  refine Graph.of_cluster_mem_visits ?_ hc
  intro l hl name h hfind
  rcases List.mem_cons.mp hl with rfl | hl
  · rw [OrderedMap.find?_map] at hfind
    obtain ⟨h', hfind', rfl⟩ := Option.map_eq_some_iff.mp hfind
    exact hall.plain name h' hfind'
  · rw [List.mem_singleton.mp hl, OrderedMap.find?_map] at hfind
    obtain ⟨h', hfind', rfl⟩ := Option.map_eq_some_iff.mp hfind
    exact hall.secure name h' hfind'

/-- The clusters of a graph for the same number of a service point at the same port. -/
theorem target_eq_of_visits {a b : Cluster} (ha : .cluster a ∈ (Graph.build cache).visits)
    (hb : .cluster b ∈ (Graph.build cache).visits)
    (hservice : a.backend.target.service = b.backend.target.service)
    (hnumber : a.backend.target.portNumber = b.backend.target.portNumber) :
    a.backend.target = b.backend.target :=
  (pinned_of_visit ha).known.eq (pinned_of_visit hb).known (by rw [portKey, portKey, hservice, hnumber])

end GatewayCompiler.Build
