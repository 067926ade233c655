import GatewayCompiler.Proofs.Hosts
import GatewayCompiler.Proofs.Routes

/-!
# How hosts grow

Hosts are made during a build and change all the time: ingresses and roots give them routes, filters,
certificates and forwardings.  All of these changes are written down here as rules, and a build is
shown to make no others.  What holds of the hosts of a graph then follows by induction on the rules,
without another look at the build.

## Main definitions

* `Offered` — the walk of a root has a route of an object served.
* `Certifies` — a host gets a certificate for an object of a namespace.
* `Attached` — the routes that hosts get.
* `Grown`, `SecurelyGrown` — the hosts that come about by the rules.

## Main statements

* `buildAll_grown` — all hosts of a build come about by the rules.
* `grown_of_mem_listeners` — so do the hosts of a graph.
* `attached_of_visit` — the routes of a graph are routes that hosts get.
-/

namespace GatewayCompiler.Build

variable {engine : Pattern.Engine} {cache : Cache}

/-! ### Routes that are served -/

/-- `Offered cache offer` says that the walk of an accepted root has `offer` served, a route of an
object. -/
inductive Offered [Pattern.Engine] (cache : Cache) : Offer → Prop
  /-- It is an entry that the walk comes to. -/
  | entry {root : Identity} {host : GatewayHost} {v : VirtualHostSpec} {mode : TlsMode} {e : Entry}
      (accepted : Accepted cache root host v mode) (serves : mode.forwards host = false)
      (reached : Reached cache.gatewayHosts (.ofRoot root host) e) : Offered cache e.offer
  /-- It is a route of a service route, which follows a root without fault. -/
  | merged {root : Identity} {host : GatewayHost} {v : VirtualHostSpec} {mode : TlsMode}
      {offer : Offer} (accepted : Accepted cache root host v mode)
      (serves : mode.forwards host = false)
      (completes : Completes cache.gatewayHosts (.ofRoot root host))
      (mem : offer ∈ mergedOffers cache.serviceRoutes v.domain) : Offered cache offer

/-- What the walk of an accepted root serves is `Offered`: an entry that the walk comes to, or a
route of a service route. -/
theorem offered_of_mem_walkSteps {root : Identity} {host : GatewayHost} {v : VirtualHostSpec}
    {mode : TlsMode} (accepted : Accepted cache root host v mode) {object : ObjectRef}
    {route : RouteSpec} {conditions : List Condition}
    (h : .serve object route conditions ∈ walkSteps cache root host v.domain mode) :
    Offered cache ⟨object, route, conditions⟩ := by
  unfold walkSteps at h
  split at h
  · obtain ⟨g, -, hown⟩ := (walk_forwardSteps root host).origin h
    cases hown
  · next hserves =>
    -- the offers of the walk are those of the entries it reaches, and the merged ones if it
    -- completes
    have hserves : mode.forwards host = false := by simpa using hserves
    obtain ⟨entries, last, hoffers, hcompletes, hnot, -, hmem⟩ :=
      (@walk_serveSteps _ cache root host v.domain).entries
    have hoffer : (⟨object, route, conditions⟩ : Offer) ∈
        (serveSteps cache root host v.domain).filterMap Step.offer? :=
      List.mem_filterMap.mpr ⟨_, h, rfl⟩
    rw [hoffers] at hoffer
    rcases List.mem_append.mp hoffer with hoffer | hoffer
    · obtain ⟨e, he, heq⟩ := List.mem_map.mp hoffer
      rw [← heq]
      exact .entry accepted hserves (reachedBehind_nil.mp ((hmem e).mp he))
    · by_cases hall : Completes cache.gatewayHosts (.ofRoot root host)
      · rw [hcompletes hall, filterMap_offer?_mergeSteps] at hoffer
        exact .merged accepted hserves hall hoffer
      · rw [hnot hall] at hoffer
        cases hoffer

/-- The single route of an accepted root that leaves nothing to others is offered. -/
theorem Offered.of_single [Pattern.Engine] {root : Identity} {host : GatewayHost} {v : VirtualHostSpec}
    {mode : TlsMode} {route : RouteSpec} (accepted : Accepted cache root host v mode)
    (serves : mode.forwards host = false) (routes : host.routes = [route])
    (check : checkRoute route = .ok ()) (own : route.delegate = none) :
    Offered cache ⟨hostRef root, route, route.conditions⟩ := by
  refine offered_of_mem_walkSteps accepted ?_
  unfold walkSteps serveSteps
  rw [serves, routes, routeSteps_of_single check own]
  exact List.mem_cons_self

/-! ### The rules -/

/-- `Certifies cache name secret space` says that the host of `name` gets the certificate in
`secret` for an object of the namespace `space`. -/
inductive Certifies (cache : Cache) (name : String) (secret : KeyMaterial) : String → Prop
  /-- A part of an ingress gives it the certificate. -/
  | ingress {i : Identity} {ingress : Ingress} {tls : IngressTls}
      (found : cache.ingresses.find? i = some ingress) (part : tls ∈ ingress.spec.tls)
      (grants : Grants cache i.space tls name secret) : Certifies cache name secret i.space
  /-- It is the host of a root with the certificate. -/
  | root {root : Identity} {host : GatewayHost} {v : VirtualHostSpec} {minVersion : MinTlsVersion}
      (accepted : Accepted cache root host v (.terminate secret minVersion))
      (domain : v.domain = name) : Certifies cache name secret root.space

/-- `Attached cache route` says that hosts get the route, whether or not it sends plain text to
TLS. -/
inductive Attached [Pattern.Engine] (cache : Cache) : Route → Prop
  /-- The route is made from an entry that is served. -/
  | entry {offer : Offer} {route : Route} (offered : Offered cache offer)
      (made : RouteOf cache offer.object.identity.space offer.route offer.conditions route)
      (filters : route.filters =
        (resolveFilters cache .route offer.object.identity.space offer.route.filters).1)
      (upgrade : Bool) : Attached cache { route with httpsUpgrade := upgrade }
  /-- The route leads from a path of an ingress to a port that is there. -/
  | ingress {i : Identity} {ingress : Ingress} {entry : IngressEntry} {service : Identity}
      {selector : PortSelector} {backend : Backend}
      (found : cache.ingresses.find? i = some ingress)
      (entry_mem : entry ∈ ingressPaths ingress.spec)
      (named : entry.backend? i.space = some (service, selector))
      (resolved : Yields cache (lookupBackend cache service selector none) (some backend))
      (upgrade : Bool) :
      Attached cache { ingressRoute ingress.metadata entry.path backend with httpsUpgrade := upgrade }

/-- `Forwards cache space services clusters` says that connections are forwarded to one of
`clusters` for each of `services`. -/
structure Forwards (cache : Cache) (space : String) (services : List ServiceSpec)
    (clusters : List Cluster) : Prop where
  /-- There is a service. -/
  nonempty : services ≠ []
  /-- The clusters have what the services ask for. -/
  clusters : List.Forall₂ (fun s c => ClusterOf cache space s c ∧ c.backend.transport = .tcp)
    services clusters

/-- Every one of the clusters has what one of the services asks for, by `ClusterOf`. -/
theorem Forwards.of_mem {space : String} {services : List ServiceSpec} {clusters : List Cluster}
    (h : Forwards cache space services clusters) {c : Cluster} (hc : c ∈ clusters) :
    ∃ s ∈ services, ClusterOf cache space s c ∧ c.backend.transport = .tcp := by
  obtain ⟨s, hpair⟩ := exists_mem_zip h.clusters.length_eq hc
  exact ⟨s, (List.of_mem_zip hpair).1, (List.forall₂_iff_zip.mp h.clusters).2 hpair⟩

/-- `Grown cache name overTls h` says that `h` may come to be served under `name`, in plain text or
over TLS.  There is a rule for each way in which a build changes a host, and an invariant of hosts
is shown by induction on these rules. -/
inductive Grown [Pattern.Engine] (cache : Cache) (name : String) (overTls : Bool) : VirtualHost → Prop
  /-- At first nothing is served. -/
  | new : Grown cache name overTls { name }
  /-- A route is added. -/
  | addRoute {h : VirtualHost} {route : Route} (grown : Grown cache name overTls h)
      (attached : Attached cache route) : Grown cache name overTls (h.addRoute route)
  /-- The filters of a root are added. -/
  | addFilters {h : VirtualHost} (grown : Grown cache name overTls h) (space : String)
      (refs : List FilterRef) :
      Grown cache name overTls (h.addFilters (resolveFilters cache .virtualHost space refs).1)
  /-- Connections are forwarded, which is only done over TLS. -/
  | forward {h : VirtualHost} {space : String} {services : List ServiceSpec}
      {clusters : List Cluster} (secure : overTls = true) (grown : Grown cache name overTls h)
      (forwards : Forwards cache space services clusters) :
      Grown cache name overTls { h with tcpProxy := some clusters }

/-- `SecurelyGrown cache name h` says that a host over TLS comes about by the rules, and its
certificate is given for some object. -/
structure SecurelyGrown [Pattern.Engine] (cache : Cache) (name : String) (h : SecureHost) : Prop where
  /-- What is served. -/
  host : Grown cache name true h.host
  /-- The certificate. -/
  certificate : ∀ secret, h.certificate = some secret → ∃ space, Certifies cache name secret space

namespace SecurelyGrown

variable {name : String} {h : SecureHost}

/-- A new host serves nothing and has no certificate. -/
theorem new (name : String) : SecurelyGrown cache name { host := { name } } where
  host := .new
  certificate := by
    rintro secret ⟨⟩

/-- What is served is changed, and the certificate stays. -/
theorem onHost (hs : SecurelyGrown cache name h) {host : VirtualHost}
    (hhost : Grown cache name true host) : SecurelyGrown cache name { h with host } :=
  ⟨hhost, hs.certificate⟩

end SecurelyGrown

/-! ### What a walk asks for -/

/-- `s.Licensed cache` says what the walk of an accepted root may ask for by the step `s`: it serves
what is `Offered`, and it forwards to services. -/
def Step.Licensed [Pattern.Engine] (cache : Cache) : Step → Prop
  | .serve object route conditions => Offered cache ⟨object, route, conditions⟩
  | .forward _ services => services ≠ []
  | .reach _ | .merge _ | .settle .. => True

/-- A walk over forwardings only forwards where there are services. -/
theorem TcpWalk.services_ne_nil {hosts : OrderedMap Identity GatewayHost} {f : TcpFrame}
    {steps : List Step} (h : TcpWalk hosts f steps) {owner : Identity}
    {services : List ServiceSpec} (hs : .forward owner services ∈ steps) : services ≠ [] := by
  induction h with
  | reject leads known unserved stuck => simp [Step.reject] at hs
  | forward serves =>
    cases List.mem_singleton.mp hs
    exact serves.2
  | enter delegates below ih =>
    simp only [List.mem_cons, reduceCtorEq, false_or, List.mem_append, Step.accept,
      List.not_mem_nil, or_false] at hs
    exact ih hs

/-- The walk of an accepted root asks for nothing but what is `Licensed`. -/
theorem licensed_of_mem_walkSteps {root : Identity} {host : GatewayHost} {v : VirtualHostSpec}
    {mode : TlsMode} (accepted : Accepted cache root host v mode) {s : Step}
    (hs : s ∈ walkSteps cache root host v.domain mode) : s.Licensed cache := by
  cases s with
  | serve object route conditions => exact offered_of_mem_walkSteps accepted hs
  | forward owner services =>
    unfold walkSteps at hs
    split at hs
    · exact (tcpWalk_tcpSteps _ _ _).services_ne_nil hs
    · exact absurd hs (forward_notMem_serveSteps root host v.domain owner services)
  | reach target => trivial
  | merge identity => trivial
  | settle object outcome => trivial

namespace Building

/-- `b.AllGrown cache` says that all hosts of the build `b` come about by the rules, each under its
own name. -/
structure AllGrown [Pattern.Engine] (cache : Cache) (b : Building) : Prop where
  /-- The hosts in plain text. -/
  plain : ∀ name h, b.plain.find? name = some h → Grown cache name false h
  /-- The hosts over TLS. -/
  secure : ∀ name h, b.secure.find? name = some h → SecurelyGrown cache name h

namespace AllGrown

variable {b b' : Building}

/-- At first there are no hosts. -/
theorem empty : AllGrown cache {} where
  plain := by
    rintro name h ⟨⟩
  secure := by
    rintro name h ⟨⟩

/-- Only the hosts matter, not what else is recorded in a build. -/
theorem congr (hall : b.AllGrown cache) (hplain : b'.plain = b.plain)
    (hsecure : b'.secure = b.secure) : b'.AllGrown cache where
  plain := by
    rw [hplain]
    exact hall.plain
  secure := by
    rw [hsecure]
    exact hall.secure

/-! ### Single operations -/

/-- A host in plain text grows by `change`, and it is made if it is not there. -/
theorem onPlainHost (hall : b.AllGrown cache) {name : String} {change : VirtualHost → VirtualHost}
    (hchange : ∀ h, Grown cache name false h → Grown cache name false (change h)) :
    (b.onPlainHost name change).AllGrown cache where
  plain := OrderedMap.forall_find?_change hall.plain .new hchange
  secure := hall.secure

/-- A host over TLS grows by `change`, and it is made if it is not there. -/
theorem onSecureHost (hall : b.AllGrown cache) {name : String} {change : SecureHost → SecureHost}
    (hchange : ∀ h, SecurelyGrown cache name h → SecurelyGrown cache name (change h)) :
    (b.onSecureHost name change).AllGrown cache where
  plain := hall.plain
  secure := OrderedMap.forall_find?_change hall.secure (.new name) hchange

theorem settle (hall : b.AllGrown cache) (object : ObjectRef) (outcome : Outcome) (host : String) :
    (b.settle object outcome host).AllGrown cache := hall.congr rfl rfl

theorem report (hall : b.AllGrown cache) (object : ObjectRef) (problems : List Problem)
    (host : String) : (b.report object problems host).AllGrown cache := by
  induction problems generalizing b with
  | nil => exact hall
  | cons problem rest ih => exact ih (hall.settle object (.invalid problem) host)

theorem look (hall : b.AllGrown cache) {α : Type} (action : StateM Lookups α) :
    (b.look action).2.AllGrown cache := hall.congr rfl rfl

theorem addRootFilters (hall : b.AllGrown cache) (name space : String) (refs : List FilterRef) :
    (b.onPlainHost name (·.addFilters (resolveFilters cache .virtualHost space refs).1)).AllGrown
      cache :=
  hall.onPlainHost fun _ hh => hh.addFilters space refs

/-! ### Steps of a walk -/

theorem attach (hall : b.AllGrown cache) (place : Place) {route : Route} (permitInsecure : Bool)
    (hroute : ∀ upgrade, Attached cache { route with httpsUpgrade := upgrade }) :
    (b.attach place route permitInsecure).AllGrown cache := by
  have hplain : (b.onPlainHost place.host (·.addRoute
      { route with httpsUpgrade := place.enforceTls && !permitInsecure })).AllGrown cache :=
    hall.onPlainHost fun _ hh => hh.addRoute (hroute _)
  unfold Building.attach
  simp only
  split
  · exact hplain.onSecureHost fun h hh => hh.onHost (hh.host.addRoute (hroute route.httpsUpgrade))
  · exact hplain

theorem serve (hall : b.AllGrown cache) (hb : b.lookups.Sound cache) (place : Place)
    {offer : Offer} (hoffer : Offered cache offer) :
    (b.serve cache place offer.object offer.route offer.conditions).AllGrown cache := by
  unfold Building.serve
  have hanswer := look_answer (buildRoute_answers offer.object.identity.space offer.route
    offer.conditions) hb
  have hfilters := look_answer (buildRoute_filters offer.object.identity.space offer.route
    offer.conditions) hb
  have hlook := hall.look (buildRoute cache offer.object.identity.space offer.route offer.conditions)
  generalize b.look (buildRoute cache offer.object.identity.space offer.route offer.conditions)
    = found at hanswer hfilters hlook ⊢
  obtain ⟨⟨route, problems⟩, b'⟩ := found
  have hreport := hlook.report offer.object problems place.host
  -- a route that is not made leaves its problems only
  cases route with
  | none => exact hreport
  | some route =>
    exact hreport.attach place _ fun upgrade =>
      .entry hoffer (hanswer route rfl) (hfilters route rfl) upgrade

theorem forward (hall : b.AllGrown cache) (hb : b.lookups.Sound cache) (place : Place)
    (owner : Identity) {services : List ServiceSpec} (hservices : services ≠ []) :
    (b.forward cache place owner services).AllGrown cache := by
  unfold Building.forward
  have hanswer := look_answer (forwardClusters_ports owner.space services) hb
  have hlook := hall.look (forwardClusters cache owner.space services)
  generalize b.look (forwardClusters cache owner.space services) = found at hanswer hlook ⊢
  obtain ⟨clusters, b'⟩ := found
  cases clusters with
  | error problem => exact hlook.settle _ _ _
  | ok clusters =>
    -- the clusters come in the order of the services, each made for its own
    have hforwards : Forwards cache owner.space services clusters :=
      ⟨hservices, (hanswer clusters rfl).imp fun _ _ => ForwardedTo.clusterOf⟩
    have hhost : (b'.onSecureHost place.host fun h =>
        { h with host := { h.host with tcpProxy := some clusters } }).AllGrown cache :=
      hlook.onSecureHost fun h hh => hh.onHost (hh.host.forward rfl hforwards)
    exact hhost.settle _ _ _

theorem take (hall : b.AllGrown cache) (hb : b.lookups.Sound cache) (place : Place) {s : Step}
    (hs : s.Licensed cache) : (b.take cache place s).AllGrown cache := by
  cases s with
  | serve object route conditions => exact hall.serve hb place hs
  | forward owner services => exact hall.forward hb place owner hs
  | reach target => exact hall.congr rfl rfl
  | merge identity => exact hall.congr rfl rfl
  | settle object outcome => exact hall.settle _ _ _

theorem takeAll (hall : b.AllGrown cache) (hb : b.lookups.Sound cache) (place : Place)
    {steps : List Step} (hsteps : ∀ s ∈ steps, s.Licensed cache) :
    (b.takeAll cache place steps).AllGrown cache := by
  unfold Building.takeAll
  refine (List.foldlRecOn (motive := fun b' : Building =>
    b'.lookups.Sound cache ∧ b'.AllGrown cache) _ _ ⟨hb, hall⟩ ?_).2
  rintro b' ⟨hsound, hall⟩ s hs
  exact ⟨(take_follows place b' s).lookups hsound, hall.take hsound place (hsteps s hs)⟩

/-! ### Roots -/

/-- The certificate of a root is its own. -/
theorem openRoot (hall : b.AllGrown cache) {root : Identity} {host : GatewayHost}
    {v : VirtualHostSpec} {mode : TlsMode} (accepted : Accepted cache root host v mode) :
    (b.openRoot cache root host v mode).AllGrown cache := by
  unfold Building.openRoot
  have hfilters : ∀ {b : Building}, b.AllGrown cache → (b.onPlainHost v.domain
      (·.addFilters (resolveFilters cache .virtualHost root.space v.filters).1)).AllGrown cache :=
    -- the filters of the root go to its plain host in each mode that opens one
    fun hall => hall.addRootFilters v.domain root.space v.filters
  cases mode with
  | off => exact hfilters (hall.report (hostRef root) _ v.domain)
  | terminate certificate minVersion =>
    simp only
    generalize hreported : b.report (hostRef root)
      (resolveFilters cache .virtualHost root.space v.filters).2 v.domain = reported
    have hreport : reported.AllGrown cache := hreported ▸ hall.report _ _ _
    have hsecure : (reported.onSecureHost v.domain fun h =>
        { host := h.host.addFilters (resolveFilters cache .virtualHost root.space v.filters).1,
          certificate := some certificate, minVersion }).AllGrown cache := by
      refine hreport.onSecureHost fun h hh => ⟨hh.host.addFilters root.space v.filters, ?_⟩
      -- the certificate on the host is the one the root's block asked for
      rintro secret ⟨⟩
      exact ⟨root.space, .root accepted rfl⟩
    split
    · exact hsecure
    · exact hfilters hsecure
  | passthrough =>
    have hsecure : (b.onSecureHost v.domain id).AllGrown cache := hall.onSecureHost fun _ hh => hh
    simp only
    split
    · exact hsecure
    · exact hfilters (hsecure.report (hostRef root) _ v.domain)

theorem addRoot (hall : b.AllGrown cache) (hb : b.lookups.Sound cache) {root : Identity}
    {host : GatewayHost} (hfound : cache.gatewayHosts.find? root = some host) :
    (b.addRoot cache (root, host)).AllGrown cache := by
  have hadded := Building.addRoot_added hfound hb
  generalize b.addRoot cache (root, host) = b' at hadded ⊢
  cases hadded with
  | noRoot virtualHost => exact hall
  | shared virtualHost many => exact hall
  | refused virtualHost alone mode sound => exact hall.congr rfl rfl
  | @served v mode lookups accepted sound =>
    have hlooked : Building.AllGrown cache { b with lookups } := hall.congr rfl rfl
    have hsound := (openRoot_follows root host v mode { b with lookups }).lookups sound
    exact (hlooked.openRoot accepted).takeAll hsound _ fun s hs =>
      licensed_of_mem_walkSteps accepted hs

/-! ### Ingresses -/

/-- An ingress gives hosts the certificates that its parts name. -/
theorem addSecureGrants (hall : b.AllGrown cache) (hb : b.lookups.Sound cache) {i : Identity}
    {ingress : Ingress} (hfound : cache.ingresses.find? i = some ingress) :
    (b.addSecureGrants cache (i, ingress)).AllGrown cache := by
  unfold Building.addSecureGrants
  have hanswer := look_answer (secureGrants_answers i.space
    (MinTlsVersion.ofText (ingress.metadata.annotation Annotation.minTlsVersion))
    ingress.spec.tls) hb
  have hlook := hall.look (secureGrants cache i.space
    (MinTlsVersion.ofText (ingress.metadata.annotation Annotation.minTlsVersion)) ingress.spec.tls)
  simp only
  generalize b.look _ = found at hanswer hlook ⊢
  obtain ⟨grants, b'⟩ := found
  -- over the grants: each sets the certificate of one host and leaves the rest
  refine List.foldlRecOn (motive := fun b' : Building => b'.AllGrown cache) _ _ hlook ?_
  intro b' hb' g hg
  refine hb'.onSecureHost fun h hh => ⟨hh.host, ?_⟩
  rintro secret ⟨⟩
  obtain ⟨tls, htls, hgrants⟩ := hanswer g hg
  exact ⟨i.space, .ingress hfound htls hgrants⟩

theorem attachIngress (hall : b.AllGrown cache) (m : Metadata) (name : String) {route : Route}
    (hroute : ∀ upgrade, Attached cache { route with httpsUpgrade := upgrade }) :
    (b.attachIngress m name route).AllGrown cache := by
  have hplain : (if m.httpAllowed || m.tlsRequired then
      b.onPlainHost name (·.addRoute route) else b).AllGrown cache := by
    split
    · exact hall.onPlainHost fun _ hh => hh.addRoute (hroute route.httpsUpgrade)
    · exact hall
  unfold Building.attachIngress
  simp only
  generalize (if m.httpAllowed || m.tlsRequired then
    b.onPlainHost name (·.addRoute route) else b) = b' at hplain ⊢
  split
  · exact hplain.onSecureHost fun h hh => hh.onHost (hh.host.addRoute (hroute false))
  · exact hplain

/-- An ingress gives hosts a route for each of its paths whose port is there. -/
theorem addIngress (hall : b.AllGrown cache) (hb : b.lookups.Sound cache) {i : Identity}
    {ingress : Ingress} (hfound : cache.ingresses.find? i = some ingress) :
    (b.addIngress cache (i, ingress)).AllGrown cache := by
  unfold Building.addIngress
  -- over the entries of the ingress, with sound lookups carried along
  refine (List.foldlRecOn (motive := fun b' : Building =>
    b'.lookups.Sound cache ∧ b'.AllGrown cache) _ _ ⟨hb, hall⟩ ?_).2
  rintro b' ⟨hsound, hall⟩ entry hentry
  refine ⟨(addIngressEntry_follows _ _ b' entry).lookups hsound, ?_⟩
  unfold Building.addIngressEntry
  cases hnamed : entry.backend? i.space with
  | none => exact hall
  | some named =>
    obtain ⟨service, selector⟩ := named
    have hanswer := look_answer (lookupBackend_answers service selector none).yields hsound
    have hlook := hall.look (lookupBackend cache service selector none)
    simp only
    generalize b'.look _ = found at hanswer hlook ⊢
    obtain ⟨backend, b''⟩ := found
    cases backend with
    | none => exact hlook
    | some backend =>
      exact hlook.attachIngress _ _ fun upgrade => .ingress hfound hentry hnamed hanswer upgrade

end AllGrown

end Building

/-! ### Whole builds -/

/-- All hosts come about by the rules after the passes over the ingresses. -/
theorem addIngresses_grown (cache : Cache) : (addIngresses cache).AllGrown cache := by
  unfold addIngresses
  have hgrants := List.foldlRecOn (motive := fun b : Building =>
    b.lookups.Sound cache ∧ b.AllGrown cache) cache.ingresses.toList
    (Building.addSecureGrants cache) ⟨.empty, .empty⟩ (by
      rintro b ⟨hsound, hall⟩ p hp
      exact ⟨(Building.addSecureGrants_follows b p hsound).lookups hsound,
        hall.addSecureGrants hsound (OrderedMap.find?_eq_some_of_mem hp)⟩)
  refine (List.foldlRecOn (motive := fun b : Building =>
    b.lookups.Sound cache ∧ b.AllGrown cache) _ _ hgrants ?_).2
  rintro b ⟨hsound, hall⟩ p hp
  exact ⟨(Building.addIngress_follows b p hsound).lookups hsound,
    hall.addIngress hsound (OrderedMap.find?_eq_some_of_mem hp)⟩

/-- All hosts come about by the rules of `Grown` after all passes. -/
theorem buildAll_grown (cache : Cache) : (buildAll cache).AllGrown cache := by
  have hheld : (holdOrphans cache (addIngresses cache)).AllGrown cache := by
    obtain ⟨orphans, heq, -⟩ := foldl_holdOrphan cache.gatewayHosts.toList (addIngresses cache)
    rw [holdOrphans, heq]
    exact (addIngresses_grown cache).congr rfl rfl
  -- reporting the roots that share a domain name changes no host
  have hsorted : (sortHosts cache (addIngresses cache)).AllGrown cache := by
    unfold sortHosts
    refine List.foldlRecOn (motive := fun b : Building => b.AllGrown cache) _ _ hheld ?_
    intro b hall p _
    unfold Building.reportSharers
    split
    · exact hall
    · simp only
      split
      · exact hall.settle _ _ _
      · exact hall
  unfold buildAll
  refine (List.foldlRecOn (motive := fun b : Building =>
    b.lookups.Sound cache ∧ b.AllGrown cache) _ _ ⟨sortHosts_sound cache, hsorted⟩ ?_).2
  rintro b ⟨hsound, hall⟩ p hp
  exact ⟨(Building.addRoot_follows b p hsound).lookups hsound,
    hall.addRoot hsound (OrderedMap.find?_eq_some_of_mem hp)⟩

/-- All hosts come about by the rules in the end. -/
theorem recordOrphans_grown [Pattern.Engine] (cache : Cache) :
    ((buildAll cache).recordOrphans cache).AllGrown cache := by
  unfold Building.recordOrphans
  refine List.foldlRecOn (motive := fun b : Building => b.AllGrown cache) _ _ ?_ ?_
  · refine List.foldlRecOn (motive := fun b : Building => b.AllGrown cache) _ _
      (buildAll_grown cache) ?_
    intro b hall i _
    exact hall.settle _ _ _
  · intro b hall p _
    exact hall.settle _ _ _

/-! ### The hosts of a graph -/

namespace Grown

variable {name : String} {overTls : Bool} {h : VirtualHost}

/-- The routes of a host are `Attached`, each of them at its own key.  By induction on the rules, of
which only one adds a route. -/
theorem routes (hh : Grown cache name overTls h) :
    h.routes.KeyedBy Route.key ∧ ∀ key route, h.routes.find? key = some route →
      Attached cache route := by
  induction hh with
  | new => exact ⟨.empty, by rintro key route ⟨⟩⟩
  | addRoute grown attached ih =>
    exact ⟨ih.1.insert rfl, OrderedMap.forall_find?_insert ih.2 attached⟩
  | addFilters grown space refs ih => exact ih
  | forward secure grown forwards ih => exact ih

/-- The connections of a host are forwarded to services, if they are forwarded at all, and this is
so over TLS only. -/
theorem tcpProxy (hh : Grown cache name overTls h) {clusters : List Cluster}
    (hsome : h.tcpProxy = some clusters) :
    overTls = true ∧ ∃ space services, Forwards cache space services clusters := by
  induction hh with
  | new => cases hsome
  | addRoute grown attached ih => exact ih hsome
  | addFilters grown space refs ih => exact ih hsome
  | forward secure grown forwards ih =>
    cases hsome
    exact ⟨secure, _, _, forwards⟩

/-- The filters of a host have different names, since a further filter of a name takes the place of
the one before. -/
theorem nodup_filters (hh : Grown cache name overTls h) :
    (h.filters.map Filter.name).Nodup := by
  induction hh with
  | new => exact List.nodup_nil
  | addRoute grown attached ih => exact ih
  | addFilters grown space refs ih => exact nodup_map_name_addFilters ih _
  | forward secure grown forwards ih => exact ih

/-- A host has the name that it is made with. -/
theorem name_eq (hh : Grown cache name overTls h) : h.name = name := by
  induction hh with
  | new => rfl
  | addRoute grown attached ih => exact ih
  | addFilters grown space refs ih => exact ih
  | forward secure grown forwards ih => exact ih

end Grown

/-- The hosts of a graph come about by the rules of `Grown`. -/
theorem grown_of_mem_listeners {l : Listener} (hl : l ∈ (Graph.build cache).listeners)
    {name : String} {h : Host} (hfind : l.hosts.find? name = some h) :
    ∃ overTls, Grown cache name overTls h.virtualHost := by
  have hall := recordOrphans_grown cache
  rcases Graph.hosts_of_mem_listeners hl with heq | heq
  · rw [heq, OrderedMap.find?_filter, OrderedMap.find?_map] at hfind
    obtain ⟨h', hfound, rfl⟩ := Option.map_eq_some_iff.mp (Option.filter_eq_some_iff.mp hfind).1
    exact ⟨false, hall.plain name h' hfound⟩
  · rw [heq, OrderedMap.find?_filter, OrderedMap.find?_map] at hfind
    obtain ⟨h', hfound, rfl⟩ := Option.map_eq_some_iff.mp (Option.filter_eq_some_iff.mp hfind).1
    exact ⟨true, (hall.secure name h' hfound).host⟩

/-- What a graph is visited at below its listeners belongs to a host that comes about by the
rules. -/
theorem grown_of_visit {visit : Visit} (hvisit : visit ∈ (Graph.build cache).visits) :
    (∃ l, visit = .listener l) ∨ ∃ l name overTls, ∃ h : Host,
      Grown cache name overTls h.virtualHost ∧ visit ∈ Visit.allOfHost l h := by
  obtain ⟨l, hl, hvisit⟩ := List.mem_flatMap.mp hvisit
  rcases List.mem_cons.mp hvisit with rfl | hvisit
  · exact .inl ⟨l, rfl⟩
  · obtain ⟨h, hh, hvisit⟩ := List.mem_flatMap.mp hvisit
    obtain ⟨⟨name, h⟩, hmem, rfl⟩ := List.mem_map.mp hh
    obtain ⟨overTls, hgrown⟩ := grown_of_mem_listeners hl (OrderedMap.find?_eq_some_of_mem hmem)
    exact .inr ⟨l, name, overTls, h, hgrown, hvisit⟩

/-- The routes of a graph are routes that hosts get, that is, they are `Attached`. -/
theorem attached_of_visit {route : Route} (hroute : .route route ∈ (Graph.build cache).visits) :
    Attached cache route := by
  rcases grown_of_visit hroute with ⟨l, hl⟩ | ⟨l, name, overTls, h, hgrown, hmem⟩
  · cases hl
  · obtain ⟨⟨key, _⟩, hkey, rfl⟩ := List.mem_map.mp (Visit.route_mem_allOfHost.mp hmem)
    exact hgrown.routes.2 key _ (OrderedMap.find?_eq_some_of_mem hkey)

/-- The clusters of a graph are those of routes that hosts get, and those that connections are
forwarded to. -/
theorem attached_or_forwards_of_visit {c : Cluster}
    (hc : .cluster c ∈ (Graph.build cache).visits) :
    (∃ route, Attached cache route ∧ c ∈ route.clusters) ∨
      ∃ space services clusters, Forwards cache space services clusters ∧ c ∈ clusters := by
  rcases grown_of_visit hc with ⟨l, hl⟩ | ⟨l, name, overTls, h, hgrown, hmem⟩
  · cases hl
  · rcases Visit.cluster_mem_allOfHost.mp hmem with ⟨route, hroute, hc⟩ | ⟨clusters, htcp, hc⟩
    · obtain ⟨⟨key, _⟩, hkey, rfl⟩ := List.mem_map.mp hroute
      exact .inl ⟨_, hgrown.routes.2 key _ (OrderedMap.find?_eq_some_of_mem hkey), hc⟩
    · obtain ⟨-, space, services, hforwards⟩ := hgrown.tcpProxy htcp
      exact .inr ⟨space, services, clusters, hforwards, hc⟩

end GatewayCompiler.Build
