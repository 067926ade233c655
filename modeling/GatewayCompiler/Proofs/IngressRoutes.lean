import GatewayCompiler.Proofs.Certificates
import GatewayCompiler.Proofs.RememberedPorts

/-!
# What ingresses serve

The entries of all ingresses are served one after the other, after all certificates were given.  In plain
text the last entry for a host and a path counts among those of ingresses that allow plain text or send it
to TLS; over TLS the last entry counts among all.  An entry leads to the port that it names, unless an entry
before it has asked for another port of the same number.

## Main definitions

* `Contribution`, `contributions` — the entries of ingresses whose services have their ports.
* `ServesLast` — the hosts serve the last contributions.
* `Contribution.given` — a contribution with the port that it is given.
* `Shown` — a contribution is the last one for a host and a path.

## Main statements

* `addIngresses_servesLast` — ingresses serve their last contributions with the ports that are given.
* `ingresses_serve_iff` — what ingresses serve, and when the entries lead to the ports that they name.
* `kiosk_misled` — an entry that leads to another port.
-/

namespace GatewayCompiler.Build

variable {cache : Cache}

/-! ### Contributions -/

/-- An entry of an ingress that leads to a port, with the host and the path that it is for. -/
structure Contribution where
  /-- The metadata of the ingress. -/
  metadata : Metadata
  /-- The name of the host. -/
  host : String
  /-- The path. -/
  path : String
  /-- The port of the service. -/
  port : ResolvedPort

/-- `contribution? cache entry` is what an entry of an ingress contributes, if its service has the
port that it names. -/
def contribution? (cache : Cache) (entry : (Identity × Ingress) × IngressEntry) : Option Contribution :=
  ((entryRequest? entry).bind (resolved? cache)).map fun port =>
    ⟨entry.1.2.metadata, entry.2.host, entry.2.path, port⟩

/-- `contributions cache` is what the ingresses contribute, in order. -/
def contributions (cache : Cache) : List Contribution :=
  (ingressEntries cache).filterMap (contribution? cache)

namespace Contribution

/-- `c.route` is the route of the contribution `c`, in plain text. -/
def route (c : Contribution) : Route :=
  ingressRoute c.metadata c.path ⟨c.port.target, .http (spokenProtocol none c.port)⟩

/-- `c.exposed` says that the contribution `c` is served in plain text: this is allowed, or it leads
to TLS. -/
def exposed (c : Contribution) : Bool := c.metadata.httpAllowed || c.metadata.tlsRequired

/-- `c.isFor host key` says that the contribution `c` is for `host` and for the tests of a route
with `key`. -/
def isFor (host key : String) (c : Contribution) : Bool := c.host = host && c.route.key = key

/-- `c.secured` is the route of the contribution `c` over TLS. -/
def secured (c : Contribution) : Route := { c.route with httpsUpgrade := false }

/-- `c.given cache` is a contribution with the port that it is given: the first one that an ingress
has asked for under the number of its port. -/
def given (cache : Cache) (c : Contribution) : Contribution :=
  { c with port := (firstUnder? cache (ingressRequests cache) c.port.key).getD c.port }

end Contribution

/-! ### Ports that are given -/

theorem firstUnder?_append (requests further : List PortRequest) (key : PortKey) :
    firstUnder? cache (requests ++ further) key
      = (firstUnder? cache requests key).or (firstUnder? cache further key) := by
  unfold firstUnder?
  rw [List.filterMap_append, List.find?_append]

/-- The first port under the number of a request is the one that was asked for before, or else its
own. -/
theorem firstUnder?_own {request : PortRequest} {own : ResolvedPort}
    (hown : resolved? cache request = some own) (before after : List PortRequest) :
    firstUnder? cache (before ++ [request] ++ after) own.key
      = some ((firstUnder? cache before own.key).getD own) := by
  have hself : firstUnder? cache [request] own.key = some own := by
    simp [firstUnder?, hown]
  rw [firstUnder?_append, firstUnder?_append, hself]
  cases firstUnder? cache before own.key with
  | none => rfl
  | some first => rfl

/-- The backend of a request is the port that it is answered with, in the protocol of its
annotations. -/
theorem lookupBackend_answer (request : PortRequest) (known : Lookups) :
    ((lookupBackend cache request.1 request.2 none).run known).1 =
      (resolved? cache request).map fun own =>
        let port := (known.ports.find? own.key).getD own
        ⟨port.target, .http (spokenProtocol none port)⟩ := by
  have hanswer := @lookupPort_answer cache request known
  unfold lookupBackend
  simp only [StateT.run_bind]
  generalize (lookupPort cache request.1 request.2).run known = found at hanswer ⊢
  obtain ⟨answer, known'⟩ := found
  change answer = _ at hanswer
  subst hanswer
  cases resolved? cache request with
  | none => rfl
  | some own => rfl

namespace Building

variable {b b' : Building}

/-- `SameHosts b b'` says that two builds have the same hosts, whatever else they record. -/
structure SameHosts (b b' : Building) : Prop where
  /-- In plain text. -/
  plain : b.plain = b'.plain
  /-- Over TLS. -/
  secure : b.secure = b'.secure

/-- `b.addContribution c` attaches the route of the contribution `c` to its hosts. -/
def addContribution (b : Building) (c : Contribution) : Building :=
  b.attachIngress c.metadata c.host c.route

/-- What hosts a contribution changes depends on the hosts only. -/
theorem SameHosts.addContribution (h : SameHosts b b') (c : Contribution) :
    SameHosts (b.addContribution c) (b'.addContribution c) := by
  constructor
  · unfold Building.addContribution
    rw [attachIngress_plain, attachIngress_plain]
    unfold onPlainHost
    rw [h.plain]
  · unfold Building.addContribution
    rw [attachIngress_secure, attachIngress_secure]
    unfold onSecureHost
    rw [h.secure]

/-- An entry is served with the port that it is given, when the ports of the requests `before` it
are remembered. -/
theorem addEntry_sameHosts {entry : (Identity × Ingress) × IngressEntry} {before after : List PortRequest}
    (hall : ingressRequests cache = before ++ (entryRequest? entry).toList ++ after)
    (hports : ∀ key, b.lookups.ports.find? key = firstUnder? cache before key) (same : SameHosts b b') :
    SameHosts (b.addEntry cache entry)
      (((contribution? cache entry).toList.map (·.given cache)).foldl addContribution b') := by
  unfold addEntry addIngressEntry contribution?
  change SameHosts (match entryRequest? entry with
    | none => _
    | some (service, selector) => _) _
  cases hrequest : entryRequest? entry with
  | none => exact same
  | some request =>
    have hanswer := @lookupBackend_answer cache request b.lookups
    have hlook : SameHosts (b.look (lookupBackend cache request.1 request.2 none)).2 b' :=
      ⟨same.plain, same.secure⟩
    change (b.look (lookupBackend cache request.1 request.2 none)).1 = _ at hanswer
    simp only
    generalize b.look (lookupBackend cache request.1 request.2 none) = found at hanswer hlook ⊢
    obtain ⟨backend, b₁⟩ := found
    change backend = _ at hanswer
    subst hanswer
    rw [Option.bind_some]
    cases hown : resolved? cache request with
    | none => exact hlook
    | some own =>
      -- no request after this one is the first one under its number
      have hgiven : (firstUnder? cache (ingressRequests cache) own.key).getD own
          = (b.lookups.ports.find? own.key).getD own := by
        rw [hall, hrequest, hports, Option.toList_some, firstUnder?_own hown, Option.getD_some]
      have hattach := hlook.addContribution
        (Contribution.given cache ⟨entry.1.2.metadata, entry.2.host, entry.2.path, own⟩)
      unfold Contribution.given at hattach ⊢
      rw [hgiven] at hattach
      simp only [Option.map_some, Option.toList_some, List.map_cons, List.map_nil, List.foldl_cons,
        List.foldl_nil]
      rw [hgiven]
      exact hattach

/-- What is remembered after an entry: its request is one more of those `before`. -/
theorem addEntry_ports (entry : (Identity × Ingress) × IngressEntry) {before : List PortRequest}
    (hb : b.lookups.Sound cache)
    (hports : ∀ key, b.lookups.ports.find? key = firstUnder? cache before key) (key : PortKey) :
    (b.addEntry cache entry).lookups.ports.find? key
      = firstUnder? cache (before ++ (entryRequest? entry).toList) key := by
  obtain ⟨queries, hqueries, hlookups⟩ := addEntry_asked b entry hb
  rw [hlookups, Lookups.find?_after, hqueries, hports, firstUnder?_append]

/-- Entries are served one after the other with the ports that they are given.  The induction is on
the entries that are left, with the requests of those `before`. -/
theorem foldl_addEntry (entries : List ((Identity × Ingress) × IngressEntry)) {before : List PortRequest}
    (hall : ingressRequests cache = before ++ entries.filterMap entryRequest?)
    (hb : b.lookups.Sound cache)
    (hports : ∀ key, b.lookups.ports.find? key = firstUnder? cache before key) (same : SameHosts b b') :
    SameHosts (entries.foldl (addEntry cache) b)
      (((entries.filterMap (contribution? cache)).map (·.given cache)).foldl addContribution b') := by
  induction entries generalizing before b b' with
  | nil => exact same
  | cons entry rest ih =>
    rw [List.filterMap_eq_flatMap_toList, List.flatMap_cons, ← List.append_assoc,
      ← List.filterMap_eq_flatMap_toList] at hall
    rw [List.filterMap_eq_flatMap_toList, List.flatMap_cons, List.map_append, List.foldl_append,
      ← List.filterMap_eq_flatMap_toList, List.foldl_cons]
    exact ih hall ((addEntry_asked b entry hb).sound hb) (addEntry_ports entry hb hports)
      (addEntry_sameHosts hall hports same)

end Building

/-- Ingresses attach their `contributions` with the ports that are given. -/
theorem addIngresses_contributions (cache : Cache) :
    Building.SameHosts (addIngresses cache)
      (((contributions cache).map (·.given cache)).foldl Building.addContribution (grantAll cache)) := by
  obtain ⟨queries, hqueries, hlookups⟩ := grantAll_asked cache
  rw [addIngresses_eq]
  refine Building.foldl_addEntry (ingressEntries cache) (List.nil_append _).symm
    ((grantAll_asked cache).sound .empty) (fun key => ?_) ⟨rfl, rfl⟩
  rw [hlookups, Lookups.find?_after, hqueries]
  rfl

/-! ### Routes -/

namespace Building

variable {b : Building}

/-- The routes of an ingress leave the certificates of hosts alone. -/
theorem certifiedAt_addContribution (host : String) (b : Building) (c : Contribution) :
    (b.addContribution c).certifiedAt host = b.certifiedAt host := by
  unfold certifiedAt addContribution
  rw [attachIngress_secure]
  split
  -- the host is there already, so its certificate stays
  · next hsecure =>
    obtain ⟨h, hfind⟩ := OrderedMap.contains_eq_true_iff.mp hsecure.2
    unfold onSecureHost
    rw [OrderedMap.find?_insert]
    split
    · next heq =>
      rw [heq, hfind]
      rfl
    · rfl
  · rfl

/-- In plain text a contribution is seen at its host and its tests, if it is `exposed` there. -/
theorem routesAt_addContribution (host key : String) (b : Building) (c : Contribution) :
    ((b.addContribution c).routesAt host).find? key
      = if c.isFor host key && c.exposed then some c.route else (b.routesAt host).find? key := by
  have hplain : (b.addContribution c).plain
      = if c.exposed then (b.onPlainHost c.host (·.addRoute c.route)).plain else b.plain :=
    attachIngress_plain ..
  -- only an exposed contribution reaches the plain hosts
  cases hexposed : c.exposed with
  | false =>
    rw [hexposed] at hplain
    rw [Bool.and_false, routesAt, hplain]
    rfl
  | true =>
    rw [hexposed, if_pos rfl] at hplain
    have hroutes : (b.addContribution c).routesAt host
        = (b.onPlainHost c.host (·.addRoute c.route)).routesAt host := by
      rw [routesAt, hplain, routesAt]
    rw [hroutes, Bool.and_true]
    by_cases hhost : c.host = host
    · subst hhost
      rw [routesAt_addRoute, OrderedMap.find?_insert]
      simp [Contribution.isFor, eq_comm]
    · rw [routesAt, plain_onPlainHost_of_ne _ _ (Ne.symm hhost)]
      simp [Contribution.isFor, hhost, routesAt]

/-- `b.secureRoute? host key` is a route of a host over TLS. -/
def secureRoute? (host key : String) (b : Building) : Option Route :=
  (b.secure.find? host).bind fun h => h.host.routes.find? key

/-- Over TLS a contribution is seen at its host and its tests, if the host is there and does not
stand for all hosts. -/
theorem secureRoute?_addContribution {host : String} (key : String) (c : Contribution)
    (hsecure : b.secure.contains host) :
    (b.addContribution c).secureRoute? host key
      = if host ≠ wildcardHost && c.isFor host key then some c.secured else b.secureRoute? host key := by
  unfold secureRoute? addContribution
  rw [attachIngress_secure]
  -- a contribution to another host changes neither side
  by_cases hhost : c.host = host
  · subst hhost
    by_cases hwildcard : c.host = wildcardHost
    · simp [hwildcard]
    · obtain ⟨h, hfind⟩ := OrderedMap.contains_eq_true_iff.mp hsecure
      rw [if_pos ⟨hwildcard, hsecure⟩]
      unfold onSecureHost
      rw [OrderedMap.find?_insert_self, hfind]
      simp only [Option.getD_some, Option.bind_some]
      change (h.host.routes.insert c.secured.key c.secured).find? key = _
      rw [OrderedMap.find?_insert]
      simp [Contribution.isFor, hwildcard, eq_comm, show c.secured.key = c.route.key from rfl]
  · have hother : c.isFor host key = false := by simp [Contribution.isFor, hhost]
    rw [hother, Bool.and_false]
    split
    · unfold onSecureHost
      rw [OrderedMap.find?_insert_of_ne _ _ (Ne.symm hhost)]
      rfl
    · rfl

/-- A host over TLS is there exactly if `certifiedAt` has something to say about it. -/
theorem contains_iff_certifiedAt {host : String} :
    b.secure.contains host ↔ (b.certifiedAt host).isSome := by
  rw [certifiedAt, Option.isSome_map, OrderedMap.contains]

end Building

/-- No route is served over TLS before the entries of the ingresses. -/
theorem secureRoute?_grantAll (cache : Cache) (host key : String) :
    (grantAll cache).secureRoute? host key = none := by
  have hkept : Building.KeepsSecure SecureHost.host {} (grantAll cache) :=
    .foldl (fun b ingress _ => Building.addSecureGrants_keepsSecure ingress b) _
  unfold Building.secureRoute?
  cases hfind : (grantAll cache).secure.find? host with
  | none => rfl
  | some h =>
    have hhost := hkept host
    rw [Building.secureAt_of_find? hfind] at hhost
    rw [Option.bind_some, hhost]
    rfl

/-! ### The hosts after the ingresses -/

/-- `ServesLast cache cs b` says that the hosts of the build `b` serve the last of the contributions
`cs` for each host and all tests, in plain text among those that are served there, and over TLS
where a certificate is given. -/
structure ServesLast (cache : Cache) (cs : List Contribution) (b : Building) : Prop where
  /-- The routes in plain text are those of the last contributions that are served there. -/
  plain : ∀ host key, (b.routesAt host).find? key
    = ((cs.filter fun c => c.isFor host key && c.exposed).getLast?).map Contribution.route
  /-- The hosts over TLS are those that are given a certificate, and they have the last one. -/
  certified : ∀ host, b.certifiedAt host
    = (((allGrants cache).filter (·.host = host)).getLast?).map fun g => (some g.certificate, g.minVersion)
  /-- Their routes are those of the last contributions of all, unless they stand for all hosts. -/
  secure : ∀ host h, b.secure.find? host = some h → ∀ key, h.host.routes.find? key
    = if host = wildcardHost then none
      else ((cs.filter (·.isFor host key)).getLast?).map Contribution.secured

namespace ServesLast

variable {cs : List Contribution} {b b' : Building}

theorem congr (h : ServesLast cache cs b') (same : Building.SameHosts b b') : ServesLast cache cs b where
  plain := by
    intro host key
    rw [Building.routesAt, same.plain]
    exact h.plain host key
  certified := by
    intro host
    rw [Building.certifiedAt, same.secure]
    exact h.certified host
  secure := by
    rw [same.secure]
    exact h.secure

/-- Exactly the hosts that are `Granted` a certificate are there over TLS. -/
theorem contains_iff (h : ServesLast cache cs b) {host : String} :
    b.secure.contains host ↔ Granted cache host := by
  rw [Building.contains_iff_certifiedAt, h.certified, ← certifiedAt_grantAll, certifiedAt_grantAll_isSome]

/-- The certificates of hosts are those that were given before. -/
theorem certifiedAt_foldl (host : String) (cs : List Contribution) (b : Building) :
    (cs.foldl Building.addContribution b).certifiedAt host = b.certifiedAt host :=
  List.foldlRecOn (motive := fun b' : Building => b'.certifiedAt host = b.certifiedAt host)
    _ _ rfl fun b' hb' c _ => (Building.certifiedAt_addContribution host b' c).trans hb'

/-- Contributions that are attached one after the other after the certificates are served, the last
one of each host and test. -/
theorem foldl_addContribution (cache : Cache) (cs : List Contribution) :
    ServesLast cache cs (cs.foldl Building.addContribution (grantAll cache)) where
  plain := by
    intro host key
    have hroutes := foldl_filter_getLast? (fun b : Building => (b.routesAt host).find? key) _ _
      (fun _ => True) (fun _ _ _ => trivial)
      (fun b c _ => Building.routesAt_addContribution host key b c) cs (s := grantAll cache) trivial
    have hnone : ((grantAll cache).routesAt host).find? key = none := by
      rw [Building.routesAt, grantAll_plain]
      rfl
    rw [hroutes, hnone, Option.or_none]
  certified := by
    intro host
    rw [certifiedAt_foldl, certifiedAt_grantAll]
  secure := by
    intro host h hfind key
    have hsecure : (grantAll cache).secure.contains host := by
      rw [Building.contains_iff_certifiedAt, ← certifiedAt_foldl host cs, Building.certifiedAt, hfind]
      rfl
    -- the host stays while contributions are attached
    have hkeeps : ∀ (b : Building) (c : Contribution), b.secure.contains host →
        (b.addContribution c).secure.contains host := by
      intro b c hb
      rw [Building.contains_iff_certifiedAt, Building.certifiedAt_addContribution]
      exact Building.contains_iff_certifiedAt.mp hb
    have hroutes := foldl_filter_getLast? (Building.secureRoute? host key) _ _ _ hkeeps
      (fun b c hb => Building.secureRoute?_addContribution key c hb) cs hsecure
    rw [secureRoute?_grantAll, Option.or_none, Building.secureRoute?, hfind, Option.bind_some] at hroutes
    rw [hroutes]
    split
    · next hwildcard => simp [hwildcard]
    · next hwildcard => simp [hwildcard]

end ServesLast

/-! ### Ports of another name -/

/-- `Shown cache c` says that the contribution `c` is the last one for a host and some tests. -/
inductive Shown (cache : Cache) (c : Contribution) : Prop
  /-- It is served in plain text. -/
  | plain {host key : String}
      (last : ((contributions cache).filter fun c => c.isFor host key && c.exposed).getLast? = some c) :
      Shown cache c
  /-- It is served over TLS. -/
  | secure {host key : String} (name : host ≠ wildcardHost)
      (granted : Granted cache host)
      (last : ((contributions cache).filter (·.isFor host key)).getLast? = some c) : Shown cache c

/-- `Misled cache c` says that the contribution `c` is given a port of another name than the one
that it asks for. -/
def Misled (cache : Cache) (c : Contribution) : Prop :=
  (c.given cache).port.target.portName ≠ c.port.target.portName

theorem Shown.mem_contributions {c : Contribution} (h : Shown cache c) : c ∈ contributions cache := by
  cases h with
  | plain last => exact (List.mem_filter.mp (List.mem_of_getLast? last)).1
  | secure name granted last => exact (List.mem_filter.mp (List.mem_of_getLast? last)).1

/-- A contribution leads to a port that one of the requests of ingresses comes to. -/
theorem exists_request {c : Contribution} (hc : c ∈ contributions cache) :
    ∃ request, resolved? cache request = some c.port := by
  obtain ⟨entry, -, hentry⟩ := List.mem_filterMap.mp hc
  obtain ⟨port, hport, rfl⟩ := Option.map_eq_some_iff.mp hentry
  obtain ⟨request, -, hresolved⟩ := Option.bind_eq_some_iff.mp hport
  exact ⟨request, hresolved⟩

/-- A contribution that is not `Misled` is given the port that it asks for, as ports of one name and
number are the same. -/
theorem given_eq {c : Contribution} (hc : c ∈ contributions cache) (clear : ¬ Misled cache c) :
    c.given cache = c := by
  obtain ⟨request, hown⟩ := exists_request hc
  unfold Misled Contribution.given at clear
  unfold Contribution.given
  cases hfirst : firstUnder? cache (ingressRequests cache) c.port.key with
  | none => rfl
  | some first =>
    rw [hfirst] at clear
    obtain ⟨other, -, hother, hkey⟩ := firstUnder?_eq_some hfirst
    rw [Option.getD_some, resolved_eq hother hown hkey (not_not.mp clear)]

/-- The port that a contribution is given does not change its host, its tests and its ingress, and
so not which one is the last. -/
theorem getLast?_given {p : Contribution → Bool} (hp : ∀ c, p (c.given cache) = p c)
    (cs : List Contribution) :
    ((cs.map (·.given cache)).filter p).getLast? = ((cs.filter p).getLast?).map (·.given cache) := by
  rw [List.filter_map, List.getLast?_map]
  congr 2
  exact List.filter_congr fun c _ => hp c

/-- Routes to ports of different names are different: a cluster has the name of its port. -/
theorem Misled.clusters_ne {c : Contribution} (h : Misled cache c) :
    (c.given cache).route.clusters ≠ c.route.clusters := by
  intro heq
  have htarget := congrArg (fun cl : Cluster => cl.backend.target) (List.singleton_inj.mp heq)
  exact h (congrArg BackendTarget.portName htarget)

/-! ### What the ingresses serve -/

/-- The ingresses serve the last contributions with the ports that these are given. -/
theorem addIngresses_servesLast (cache : Cache) :
    ServesLast cache ((contributions cache).map (·.given cache)) (addIngresses cache) :=
  .congr (.foldl_addContribution cache _) (addIngresses_contributions cache)

theorem addIngresses_plainRoute (cache : Cache) (host key : String) :
    ((addIngresses cache).routesAt host).find? key =
      ((contributions cache).filter fun c => c.isFor host key && c.exposed).getLast?.map
        fun c => (c.given cache).route := by
  rw [(addIngresses_servesLast cache).plain,
    getLast?_given (p := fun c => c.isFor host key && c.exposed) fun _ => rfl, Option.map_map]
  rfl

theorem addIngresses_secureRoute {host : String} {h : SecureHost}
    (hfind : (addIngresses cache).secure.find? host = some h) (key : String) :
    h.host.routes.find? key = if host = wildcardHost then none
      else ((contributions cache).filter (·.isFor host key)).getLast?.map fun c =>
        (c.given cache).secured := by
  rw [(addIngresses_servesLast cache).secure host h hfind,
    getLast?_given (p := (·.isFor host key)) fun _ => rfl, Option.map_map]
  rfl

/-- Where the last contributions are served with the ports that they name, none of them is
`Misled`. -/
theorem Shown.not_misled {c : Contribution} (shown : Shown cache c)
    (hown : ServesLast cache (contributions cache) (addIngresses cache)) : ¬ Misled cache c := by
  intro hmisled
  cases shown with
  -- shown routes are the last ones, and a wrong answer would have left other clusters in their
  -- place
  | @plain host key last =>
    have hroute := (addIngresses_plainRoute cache host key).symm.trans (hown.plain host key)
    rw [last] at hroute
    exact hmisled.clusters_ne (congrArg Route.clusters (Option.some.inj hroute))
  | @secure host key name granted last =>
    obtain ⟨h, hfind⟩ := OrderedMap.contains_eq_true_iff.mp
      ((addIngresses_servesLast cache).contains_iff.mpr granted)
    have hroute := (addIngresses_secureRoute hfind key).symm.trans (hown.secure host h hfind key)
    rw [if_neg name, if_neg name, last] at hroute
    have heq : (c.given cache).secured = c.secured := Option.some.inj hroute
    have hclusters := congrArg Route.clusters heq
    exact hmisled.clusters_ne hclusters

/-- If no contribution that is `Shown` is misled, the last ones are served with the ports that they
name. -/
theorem servesLast_contributions (hclear : ∀ c, Shown cache c → ¬ Misled cache c) :
    ServesLast cache (contributions cache) (addIngresses cache) where
  plain := by
    intro host key
    rw [addIngresses_plainRoute]
    refine Option.map_congr fun c hlast => ?_
    have hshown : Shown cache c := .plain hlast
    rw [given_eq hshown.mem_contributions (hclear c hshown)]
  certified := (addIngresses_servesLast cache).certified
  secure := by
    intro host h hfind key
    rw [addIngresses_secureRoute hfind]
    -- the wildcard host takes no routes over TLS
    split
    · rfl
    · next hwildcard =>
      have granted := (addIngresses_servesLast cache).contains_iff.mp
        (OrderedMap.contains_eq_true_iff.mpr ⟨h, hfind⟩)
      refine Option.map_congr fun c hlast => ?_
      have hshown : Shown cache c := .secure hwildcard granted hlast
      rw [given_eq hshown.mem_contributions (hclear c hshown)]

/-- **What ingresses serve.** Take the entries of all ingresses whose services have the ports that
they name, in order.  In plain text the last entry for a host and a path is served among those of
ingresses that allow plain text or send it to TLS.  The hosts over TLS are those that are given a
certificate, and they serve the last entry of all, unless they stand for all hosts.  An entry is
served with the port that was asked for first under the number of its port.  These are the ports
that the entries name exactly if none of the entries that are served is misled. -/
theorem ingresses_serve_iff (cache : Cache) :
    ServesLast cache ((contributions cache).map (·.given cache)) (addIngresses cache) ∧
    (ServesLast cache (contributions cache) (addIngresses cache) ↔
      ∀ c, Shown cache c → ¬ Misled cache c) := by
  refine ⟨addIngresses_servesLast cache, ?_, ?_⟩
  · exact fun hown c hshown => hshown.not_misled hown
  · exact servesLast_contributions

/-- An entry that names a port of a number which is listed twice is served with the other port. -/
theorem kiosk_misled :
    ¬ ∀ cache : Cache, ServesLast cache (contributions cache) (addIngresses cache) := by
  intro hall
  have hroute := (hall kioskCache).plain "b.test" "prefix:/"
  have hname := congrArg (Option.map fun route : Route =>
    route.clusters.map fun cl => cl.backend.target.portName) hroute
  revert hname
  decide

end GatewayCompiler.Build
