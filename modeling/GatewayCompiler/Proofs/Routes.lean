import GatewayCompiler.Proofs.Frame
import GatewayCompiler.Proofs.Listeners

/-!
# Which routes a host gets

A root that shares its domain name with no other root has the host of that name to itself, unless an
ingress serves the host as well.  The routes of the host are then those of the entries that the walk
of the root comes to, and among routes with the same tests the last one counts.

## Main definitions

* `Building.routesAt`, `Graph.plainRoutes` — the routes of a host in plain text.
* `Contributes` — an ingress gives a host a route in plain text.
* `offeredRoutes` — the routes that entries make, one after the other.
* `OfferedRoute` — a route is made from an entry.
* `OfferResult` — an entry makes a route, or none of its services becomes a cluster.
* `HostRoutes` — the routes of the host of a root are those of the entries that its walk comes to.

## Main statements

* `Building.takeAll_routesAt` — what a walk does to the routes of its host.
* `build_plainRoutes` — the routes of the host of a root.
-/

namespace GatewayCompiler

namespace Build

variable {engine : Pattern.Engine} {cache : Cache}

/-! ### Operations on hosts in plain text -/

namespace Building

/-- `b.routesAt name` are the routes of a host in plain text; without the host there are none. -/
def routesAt (name : String) (b : Building) : OrderedMap String Route :=
  ((b.plain.find? name).map VirtualHost.routes).getD {}

/-- A change of the host `name` is not seen at another one. -/
theorem plain_onPlainHost_of_ne {name other : String} (change : VirtualHost → VirtualHost)
    (b : Building) (hne : other ≠ name) :
    (b.onPlainHost name change).plain.find? other = b.plain.find? other :=
  b.plain.find?_insert_of_ne _ hne

theorem routesAt_addRoute (name : String) (route : Route) (b : Building) :
    (b.onPlainHost name (·.addRoute route)).routesAt name
      = (b.routesAt name).insert route.key route := by
  unfold routesAt onPlainHost
  rw [OrderedMap.find?_insert_self]
  cases b.plain.find? name <;> rfl

theorem routesAt_addFilters (name : String) (filters : List Filter) (b : Building) :
    (b.onPlainHost name (·.addFilters filters)).routesAt name = b.routesAt name := by
  unfold routesAt onPlainHost
  rw [OrderedMap.find?_insert_self]
  cases b.plain.find? name <;> rfl

theorem report_plain (object : ObjectRef) (problems : List Problem) (host : String)
    (b : Building) : (b.report object problems host).plain = b.plain := by
  obtain ⟨statuses, heq⟩ := report_eq object problems host b
  rw [heq]

theorem report_lookups (object : ObjectRef) (problems : List Problem) (host : String)
    (b : Building) : (b.report object problems host).lookups = b.lookups := by
  obtain ⟨statuses, heq⟩ := report_eq object problems host b
  rw [heq]

/-- A route is attached to its host in plain text, whatever happens over TLS. -/
theorem attach_plain (place : Place) (route : Route) (permitInsecure : Bool) (b : Building) :
    (b.attach place route permitInsecure).plain =
      (b.onPlainHost place.host (·.addRoute
        { route with httpsUpgrade := place.enforceTls && !permitInsecure })).plain := by
  unfold attach
  simp only
  split
  · rfl
  · rfl

theorem attach_lookups (place : Place) (route : Route) (permitInsecure : Bool) (b : Building) :
    (b.attach place route permitInsecure).lookups = b.lookups := by
  unfold attach
  simp only
  split
  · rfl
  · rfl

end Building

/-! ### Ingresses -/

/-- `Contributes cache name ingress` says that an ingress gives a host a route in plain text: one of
its entries for the host leads to a port that is there, and the ingress allows plain text or sends
it to TLS. -/
def Contributes (cache : Cache) (name : String) (ingress : Identity × Ingress) : Prop :=
  (ingress.2.metadata.httpAllowed || ingress.2.metadata.tlsRequired) ∧
    ∃ entry ∈ ingressPaths ingress.2.spec, entry.host = name ∧
      ∃ service selector, entry.backend? ingress.1.space = some (service, selector) ∧
        (findPort? cache service selector).isSome

namespace Building

theorem addSecureGrants_plain (b : Building) (ingress : Identity × Ingress) :
    (b.addSecureGrants cache ingress).plain = b.plain := by
  unfold addSecureGrants
  simp only
  refine List.foldlRecOn (motive := fun b' : Building => b'.plain = b.plain) _ _ rfl ?_
  intro b' hb' grant _
  exact hb'

theorem attachIngress_plain (m : Metadata) (host : String) (route : Route) (b : Building) :
    (b.attachIngress m host route).plain =
      if m.httpAllowed || m.tlsRequired then (b.onPlainHost host (·.addRoute route)).plain
      else b.plain := by
  unfold attachIngress
  simp only
  split
  · split
    · rfl
    · rfl
  · split
    · rfl
    · rfl

/-- Over TLS a route is attached where the host has a certificate, and never to the host for all
names. -/
theorem attachIngress_secure (m : Metadata) (host : String) (route : Route) (b : Building) :
    (b.attachIngress m host route).secure =
      if host ≠ wildcardHost ∧ b.secure.contains host then
        (b.onSecureHost host fun h =>
          { h with host := h.host.addRoute { route with httpsUpgrade := false } }).secure
      else b.secure := by
  unfold attachIngress
  -- the plain hosts may change first, which the secure ones do not notice
  have hsame : (if m.httpAllowed || m.tlsRequired then b.onPlainHost host (·.addRoute route)
      else b).secure = b.secure := by
    split
    · rfl
    · rfl
  generalize (if m.httpAllowed || m.tlsRequired then b.onPlainHost host (·.addRoute route) else b)
    = b' at hsame ⊢
  have hchange : ∀ change,
      (b'.onSecureHost host change).secure = (b.onSecureHost host change).secure := by
    intro change
    unfold onSecureHost
    rw [hsame]
  rw [← hchange, ← hsame]
  simp only
  split
  · rfl
  · rfl

/-- An entry of an ingress leaves a host alone, unless the ingress `Contributes` to it. -/
theorem addIngressEntry_plain {name : String} {ingress : Identity × Ingress} {b : Building}
    (hb : b.lookups.Sound cache) (hnot : ¬ Contributes cache name ingress) {entry : IngressEntry}
    (hentry : entry ∈ ingressPaths ingress.2.spec) :
    (b.addIngressEntry cache ingress.1.space ingress.2.metadata entry).plain.find? name
      = b.plain.find? name := by
  unfold addIngressEntry
  cases hbackend : entry.backend? ingress.1.space with
  | none => rfl
  | some named =>
    obtain ⟨service, selector⟩ := named
    have hanswer := look_answer (lookupBackend_answers service selector none) hb
    have hplain : (b.look (lookupBackend cache service selector none)).2.plain = b.plain := rfl
    simp only
    generalize b.look (lookupBackend cache service selector none) = found at hanswer hplain ⊢
    obtain ⟨backend, b'⟩ := found
    change b'.plain = b.plain at hplain
    cases backend with
    | none => exact congrArg (·.find? name) hplain
    | some backend =>
      have hport : (findPort? cache service selector).isSome := by
        cases hfind : findPort? cache service selector with
        | none =>
          rw [hfind] at hanswer
          cases hanswer
        | some _ => rfl
      simp only
      rw [attachIngress_plain]
      split
      · -- an entry in plain text with a backend is for another host, or the ingress contributes
        next hallowed =>
        have hne : name ≠ entry.host := by
          rintro rfl
          exact hnot ⟨hallowed, entry, hentry, rfl, service, selector, hbackend, hport⟩
        rw [plain_onPlainHost_of_ne _ _ hne, hplain]
      · rw [hplain]

theorem addIngress_plain {name : String} {ingress : Identity × Ingress}
    (hnot : ¬ Contributes cache name ingress) {b : Building} (hb : b.lookups.Sound cache) :
    (b.addIngress cache ingress).plain.find? name = b.plain.find? name := by
  unfold addIngress
  refine (List.foldlRecOn (motive := fun b' : Building =>
    b'.lookups.Sound cache ∧ b'.plain.find? name = b.plain.find? name) _ _ ⟨hb, rfl⟩ ?_).2
  rintro b' ⟨hsound, hsame⟩ entry hentry
  refine ⟨(addIngressEntry_follows _ _ b' entry).lookups hsound, ?_⟩
  rw [addIngressEntry_plain hsound hnot hentry, hsame]

end Building

/-- Certificates make no hosts in plain text. -/
theorem grantAll_plain (cache : Cache) : (grantAll cache).plain = {} := by
  refine List.foldlRecOn (motive := fun b : Building => b.plain = {}) _ _ rfl ?_
  intro b hb ingress _
  rw [Building.addSecureGrants_plain, hb]

/-- A host that no ingress contributes to is not there after the passes over the ingresses. -/
theorem addIngresses_plain {name : String}
    (hnot : ∀ ingress ∈ cache.ingresses.toList, ¬ Contributes cache name ingress) :
    (addIngresses cache).plain.find? name = none := by
  refine (List.foldlRecOn (motive := fun b : Building =>
    b.lookups.Sound cache ∧ b.plain.find? name = none) _ _
      ⟨(grantAll_follows cache).lookups .empty, ?_⟩ ?_).2
  · rw [grantAll_plain]
    rfl
  · rintro b ⟨hsound, hnone⟩ ingress hingress
    refine ⟨(Building.addIngress_follows b ingress hsound).lookups hsound, ?_⟩
    rw [Building.addIngress_plain (hnot ingress hingress) hsound, hnone]

/-! ### The routes of a walk -/

/-- `plainRoute enforceTls spec route` is a route as it is attached in plain text, where there is
one. -/
def plainRoute (enforceTls : Bool) (spec : RouteSpec) (route : Option Route) : List Route :=
  (route.map fun r => { r with httpsUpgrade := enforceTls && !spec.permitInsecure }).toList

/-- `offeredRoutes cache enforceTls offers` are the routes that the entries `offers` make, one after
the other; an entry without clusters makes none. -/
def offeredRoutes (cache : Cache) (enforceTls : Bool) : List Offer → StateM Lookups (List Route)
  | [] => return []
  | offer :: rest => do
    let (route, _) ← buildRoute cache offer.object.identity.space offer.route offer.conditions
    let routes ← offeredRoutes cache enforceTls rest
    return plainRoute enforceTls offer.route route ++ routes

/-- `putRoutes routes further` are `routes` with `further` ones put in after each other, so that
among those with the same tests the last one counts. -/
def putRoutes (routes : OrderedMap String Route) (further : List Route) : OrderedMap String Route :=
  further.foldl (fun m route => m.insert route.key route) routes

namespace Building

/-- What serving a route does to the routes of the host: what `buildRoute` makes is put in. -/
theorem serve_routesAt (place : Place) (object : ObjectRef) (spec : RouteSpec)
    (conditions : List Condition) (b : Building) {route : Option Route} {problems : List Problem}
    {known : Lookups}
    (h : (buildRoute cache object.identity.space spec conditions).run b.lookups
      = ((route, problems), known)) :
    (b.serve cache place object spec conditions).lookups = known ∧
    (b.serve cache place object spec conditions).routesAt place.host
      = putRoutes (b.routesAt place.host) (plainRoute place.enforceTls spec route) := by
  unfold serve look
  -- reporting leaves the routes alone, so only attaching counts
  rw [h]
  cases route with
  | none =>
    refine ⟨report_lookups .., ?_⟩
    unfold routesAt
    simp only
    rw [report_plain]
    rfl
  | some route =>
    refine ⟨(attach_lookups ..).trans (report_lookups ..), ?_⟩
    simp only
    have hattach : ∀ b' : Building,
        (b'.attach place route spec.permitInsecure).routesAt place.host
          = putRoutes (b'.routesAt place.host) (plainRoute place.enforceTls spec (some route)) := by
      intro b'
      unfold routesAt
      rw [attach_plain]
      exact routesAt_addRoute place.host _ b'
    rw [hattach]
    unfold routesAt
    rw [report_plain]

/-- A walk that forwards nothing puts the routes of its entries in at its host.  By induction on the
steps, with what is remembered before each of them. -/
theorem takeAll_routesAt (place : Place) (steps : List Step)
    (hsteps : ∀ owner services, .forward owner services ∉ steps) (b : Building) :
    (b.takeAll cache place steps).routesAt place.host
      = putRoutes (b.routesAt place.host)
          ((offeredRoutes cache place.enforceTls (steps.filterMap Step.offer?)).run b.lookups).1 := by
  induction steps generalizing b with
  | nil => rfl
  | cons s rest ih =>
    have hrest : ∀ owner services, .forward owner services ∉ rest :=
      fun owner services h => hsteps owner services (List.mem_cons_of_mem _ h)
    change ((b.take cache place s).takeAll cache place rest).routesAt place.host = _
    rw [ih hrest]
    cases s with
    | serve object spec conditions =>
      have hserve := @serve_routesAt cache place object spec conditions b _ _ _ rfl
      obtain ⟨hlookups, hroutes⟩ := hserve
      change putRoutes ((b.serve cache place object spec conditions).routesAt place.host)
        ((offeredRoutes cache place.enforceTls (rest.filterMap Step.offer?)).run
          (b.serve cache place object spec conditions).lookups).1 = _
      -- the look-ups of the further entries go on from what this one remembers
      rw [hroutes, hlookups]
      simp only [List.filterMap_cons, Step.offer?, offeredRoutes, StateT.run_bind]
      exact (List.foldl_append ..).symm
    | forward owner services => exact absurd List.mem_cons_self (hsteps owner services)
    | reach target => rfl
    | merge identity => rfl
    | settle object outcome => rfl

end Building

/-- `OfferedRoute cache enforceTls offer route` says that a route in plain text is made from an
entry: its tests are those of the conditions on the way and of the entry, and each of its clusters
points at a service of the entry, in the namespace of the object that has the entry. -/
structure OfferedRoute (cache : Cache) (enforceTls : Bool) (offer : Offer) (route : Route) :
    Prop where
  /-- The test of the path. -/
  path : route.path = mergePath offer.conditions
  /-- The tests of headers. -/
  headers : route.headers = mergeHeaders offer.conditions
  /-- Plain text is sent to TLS where TLS is enforced, unless the entry permits it. -/
  httpsUpgrade : route.httpsUpgrade = (enforceTls && !offer.route.permitInsecure)
  /-- The clusters are built for services of the entry, in their order. -/
  clusters : ∃ found, found.Sublist offer.route.services ∧
    List.Forall₂ (Builds cache offer.object.identity.space) found route.clusters
  /-- The services are in the namespace of the object. -/
  services : ∀ c ∈ route.clusters, c.backend.target.service.space = offer.object.identity.space ∧
    cache.services.contains c.backend.target.service
  /-- There is a cluster. -/
  nonempty : route.clusters ≠ []

theorem RouteOf.offered {space : String} {offer : Offer} {route : Route} (enforceTls : Bool)
    (hspace : offer.object.identity.space = space)
    (h : RouteOf cache space offer.route offer.conditions route) :
    OfferedRoute cache enforceTls offer
      { route with httpsUpgrade := enforceTls && !offer.route.permitInsecure } := by
  subst hspace
  obtain ⟨filters, hshape⟩ := h.shape
  constructor
  · exact congrArg Route.path hshape
  · exact congrArg Route.headers hshape
  · rfl
  · exact h.clusters
  · intro c hc
    obtain ⟨found, -, hall⟩ := h.clusters
    obtain ⟨s, -, hbuilds⟩ := Builds.of_mem hall hc
    rw [hbuilds.clusterOf.service]
    exact ⟨rfl, hbuilds.clusterOf.cached⟩
  · exact h.nonempty

/-- `OfferResult cache enforceTls offer result` says what becomes of an offer: a route is made from
it, or no cluster is built for any of the services that it lists. -/
def OfferResult (cache : Cache) (enforceTls : Bool) (offer : Offer) : Option Route → Prop
  | some route => OfferedRoute cache enforceTls offer route
  | none => ∀ s ∈ offer.route.services, Unbuilt cache offer.object.identity.space s

/-- The routes of `offeredRoutes` are the results of the offers, in their order, with the offers that
make none left out. -/
theorem offeredRoutes_answers (enforceTls : Bool) (offers : List Offer) :
    Answers cache (offeredRoutes cache enforceTls offers) fun routes =>
      ∃ results, List.Forall₂ (OfferResult cache enforceTls) offers results ∧
        routes = results.reduceOption := by
  -- over the offers: each leaves one result, also where no route is made
  induction offers with
  | nil => exact .pure ⟨[], .nil, rfl⟩
  | cons offer rest ih =>
    rw [offeredRoutes]
    refine (buildRoute_answers _ _ _).yields.bind fun made hmade => ?_
    refine ih.bind fun routes hroutes => .pure ?_
    obtain ⟨results, hall, rfl⟩ := hroutes
    cases hroute : made.1 with
    | none =>
      have hunbuilt := hmade.holds (buildRoute_unbuilt _ _ _) hroute
      exact ⟨none :: results, .cons hunbuilt hall, rfl⟩
    | some route =>
      have hof := hmade.holds (buildRoute_answers _ _ _) route hroute
      exact ⟨some _ :: results, .cons (hof.offered enforceTls rfl) hall, rfl⟩

/-! ### The host of a root -/

/-- Neither a host that is entered nor the merging of service routes forwards anything. -/
theorem forward_notMem_serveSteps (root : Identity) (host : GatewayHost) (fqdn : String) :
    ∀ owner services, .forward owner services ∉ serveSteps cache root host fqdn := by
  intro owner services hmem
  rcases (walk_serveSteps root host fqdn).origin hmem with ⟨hmem, -⟩ | ⟨g, -, hown⟩
  · cases mem_mergeSteps hmem
  · cases hown

/-- `rootLookups cache root v` is what is remembered when the walk of a root begins. -/
def rootLookups [Pattern.Engine] (cache : Cache) (root : Identity) (v : VirtualHostSpec) : Lookups :=
  ((buildBefore cache root).look (checkRoot cache root v).run).2.lookups

namespace Building

/-- The hosts of a root are made without routes, and nothing is looked up for them. -/
theorem openRoot_routesAt (root : Identity) (host : GatewayHost) (v : VirtualHostSpec)
    (mode : TlsMode) (b : Building) :
    (b.openRoot cache root host v mode).lookups = b.lookups ∧
    (b.openRoot cache root host v mode).routesAt v.domain = b.routesAt v.domain := by
  -- opening a host adds filters and a certificate, never a route
  have hreport : ∀ (problems : List Problem) (b' : Building),
      (b'.report (hostRef root) problems v.domain).routesAt v.domain = b'.routesAt v.domain := by
    intro problems b'
    unfold routesAt
    rw [report_plain]
  unfold openRoot
  cases mode with
  | off => exact ⟨report_lookups .., (routesAt_addFilters ..).trans (hreport _ _)⟩
  | terminate certificate minVersion =>
    simp only
    split
    · exact ⟨report_lookups .., hreport _ _⟩
    · exact ⟨report_lookups .., (routesAt_addFilters ..).trans (hreport _ _)⟩
  | passthrough =>
    simp only
    split
    · exact ⟨rfl, rfl⟩
    · exact ⟨report_lookups .., (routesAt_addFilters ..).trans (hreport _ _)⟩

/-- An accepted root puts the routes of its entries in at its host, as `offeredRoutes` makes
them. -/
theorem addRoot_routesAt [Pattern.Engine] {root : Identity} {host : GatewayHost} {v : VirtualHostSpec}
    {mode : TlsMode} (h : Accepted cache root host v mode) (hserves : mode.forwards host = false)
    {b : Building} (hb : b.lookups.Sound cache) :
    (b.addRoot cache (root, host)).routesAt v.domain =
      putRoutes (b.routesAt v.domain) ((offeredRoutes cache mode.enforcesTls
        ((serveSteps cache root host v.domain).filterMap Step.offer?)).run
          (b.look (checkRoot cache root v).run).2.lookups).1 := by
  obtain ⟨hlookups, hroutes⟩ := @openRoot_routesAt cache root host v mode
    (b.look (checkRoot cache root v).run).2
  rw [addRoot_eq h hb, walkSteps, hserves]
  simp only [Bool.false_eq_true, if_false]
  rw [takeAll_routesAt ⟨v.domain, mode.enforcesTls⟩ _ (forward_notMem_serveSteps root host v.domain),
    hroutes, hlookups]
  rfl

end Building

/-- The routes of the host of a root before unused hosts are dropped. -/
theorem buildAll_routesAt {root : Identity} {host : GatewayHost} {v : VirtualHostSpec}
    {mode : TlsMode} (h : Accepted cache root host v mode) (hserves : mode.forwards host = false)
    (hingress : ∀ ingress ∈ cache.ingresses.toList, ¬ Contributes cache v.domain ingress) :
    (rootLookups cache root v).Sound cache ∧
    (buildAll cache).routesAt v.domain =
      putRoutes {} ((offeredRoutes cache mode.enforcesTls
        ((serveSteps cache root host v.domain).filterMap Step.offer?)).run
          (rootLookups cache root v)).1 := by
  have hsound := buildBefore_sound cache root
  obtain ⟨hbefore, hrest⟩ := buildAll_hostsAt h
  -- nothing is there when the root is served, and later roots leave its host alone
  have hnone : (buildBefore cache root).plain.find? v.domain = none :=
    (congrArg Prod.fst hbefore).trans (addIngresses_plain hingress)
  have hplain : (buildAll cache).plain.find? v.domain
      = ((buildBefore cache root).addRoot cache (root, host)).plain.find? v.domain :=
    congrArg Prod.fst hrest
  refine ⟨(Building.look_follows (checkRoot_answers root v) _).lookups hsound, ?_⟩
  have hroutes := Building.addRoot_routesAt h hserves hsound
  rw [Building.routesAt] at hroutes
  rw [Building.routesAt, hplain, hroutes, Building.routesAt, hnone]
  rfl

end Build

/-- `g.plainRoutes name` are the routes of a host in plain text; without the host there are none. -/
def Graph.plainRoutes (g : Graph) (name : String) : OrderedMap String Route :=
  ((g.host? Listener.plainRole name).map fun h => h.virtualHost.routes).getD {}

namespace Build

section

variable {engine : Pattern.Engine} {cache : Cache}

theorem recordOrphans_plain (b : Building) : (b.recordOrphans cache).plain = b.plain := by
  obtain ⟨statuses, heq⟩ := Building.recordOrphans_eq cache b
  rw [heq]

/-- The routes of a host of a graph are those that the build has put in: a host without routes is
dropped, which leaves it as empty as before. -/
theorem plainRoutes_build (cache : Cache) (name : String) :
    (Graph.build cache).plainRoutes name = (buildAll cache).routesAt name := by
  have hhost : (Graph.build cache).host? Listener.plainRole name
      = (((buildAll cache).recordOrphans cache).plain.map Host.plain |>.find? name).filter
          Host.isRetained := Graph.host?_plain name
  unfold Graph.plainRoutes Building.routesAt
  -- a host without routes is not retained, so both sides are empty for it
  rw [hhost, OrderedMap.find?_map, recordOrphans_plain]
  cases (buildAll cache).plain.find? name with
  | none => rfl
  | some host =>
    cases hempty : host.routes.isEmpty with
    | true =>
      simp only [Option.map_some, Option.filter, Host.isRetained, hempty]
      exact (OrderedMap.eq_empty_of_isEmpty hempty).symm
    | false => simp [Option.filter, Host.isRetained, hempty, Host.virtualHost]

/-- `HostRoutes cache root host v mode entries merged routes` says that the routes of the host of a
root are those of the entries that its walk comes to. -/
structure HostRoutes [Pattern.Engine] (cache : Cache) (root : Identity) (host : GatewayHost)
    (v : VirtualHostSpec) (mode : TlsMode) (entries : List Entry) (merged : List Offer)
    (routes : List Route) : Prop where
  /-- The entries are those that the walk comes to. -/
  reached : ∀ e, e ∈ entries ↔ Reached cache.gatewayHosts (.ofRoot root host) e
  /-- They come in the order in which the walk goes down into delegates. -/
  sorted : entries.Pairwise fun d e => d.path < e.path
  /-- Every entry belongs to a chain that begins with the root and has no host twice, and the
  conditions on the way are those of the delegating routes along the chain. -/
  chains : ∀ e ∈ entries, IsChain cache.gatewayHosts root e.frame.chain e.frame.owner ∧
    ∃ links, Linked cache.gatewayHosts e.frame.chain links ∧
      e.frame.inherited = links.flatMap RouteSpec.conditions
  /-- The service routes of the domain name follow if no route stops the root itself. -/
  completes : Completes cache.gatewayHosts (.ofRoot root host) →
    merged = mergedOffers cache.serviceRoutes v.domain
  /-- They do not follow otherwise. -/
  stopped : ¬ Completes cache.gatewayHosts (.ofRoot root host) → merged = []
  /-- The routes are made one after the other, and an entry without clusters makes none. -/
  made : routes = ((offeredRoutes cache mode.enforcesTls (entries.map Entry.offer ++ merged)).run
    (rootLookups cache root v)).1
  /-- Every offer either makes a route of its own or lists only services that no cluster is built for;
  the routes are those that are made, in the order of the offers. -/
  offered : ∃ results,
    List.Forall₂ (OfferResult cache mode.enforcesTls) (entries.map Entry.offer ++ merged) results ∧
      routes = results.reduceOption
  /-- Among routes with the same tests the last one counts, and there are no others. -/
  plainRoutes : (Graph.build cache).plainRoutes v.domain = .ofList (routes.map fun r => (r.key, r))

/-- **The routes of a root.** A root that shares its domain name with no other root, is in order and
is served by its routes: unless an ingress contributes to its host, the routes of the host in plain
text are those of the entries that the walk of the root comes to. -/
theorem build_plainRoutes {root : Identity} {host : GatewayHost} {v : VirtualHostSpec}
    {mode : TlsMode} (accepted : Accepted cache root host v mode)
    (serves : mode.forwards host = false)
    (unclaimed : ∀ ingress ∈ cache.ingresses.toList, ¬ Contributes cache v.domain ingress) :
    ∃ entries merged routes, HostRoutes cache root host v mode entries merged routes := by
  -- the routes are those of the offers of the walk, in their order
  obtain ⟨hsound, hroutes⟩ := buildAll_routesAt accepted serves unclaimed
  obtain ⟨entries, merged, hoffers, hcompletes, hnot, hsorted, hmem⟩ :=
    (@walk_serveSteps _ cache root host v.domain).entries
  rw [filterMap_offer?_mergeSteps] at hcompletes
  refine ⟨entries, merged, ((offeredRoutes cache mode.enforcesTls (entries.map Entry.offer ++
    merged)).run (rootLookups cache root v)).1, ?_⟩
  constructor
  · intro e
    rw [hmem, reachedBehind_nil]
  · exact hsorted
  · intro e he
    have hreached := reachedBehind_nil.mp ((hmem e).mp he)
    exact ⟨hreached.enters.isChain accepted.found, hreached.enters.linked accepted.found⟩
  · exact hcompletes
  · exact hnot
  · rfl
  · exact (offeredRoutes_answers _ _ _ hsound).1
  · rw [plainRoutes_build, hroutes, hoffers, OrderedMap.ofList, List.foldl_map]
    rfl

end

/-! ### A root that delegates a part of its paths -/

/-- A route for the paths below `/api`, which neither serves nor delegates them. -/
def apiRoute : RouteSpec where
  conditions := [⟨some "/api", none, none⟩]
  services := []
  delegate := none
  websockets := false
  permitInsecure := false
  prefixReplacement := none
  retry := none
  timeout := none
  filters := []
  skipAuthorization := false

/-- The root of `siteCache`, which leaves the paths to a host in another namespace. -/
def siteHost : GatewayHost where
  metadata := { name := some "site", space := some "default" }
  virtualHost := some ⟨"site.test", none, []⟩
  routes := [{ apiRoute with delegate := some ⟨"api", some "team"⟩ }]
  tcpProxy := none

/-- The other host, which serves them in turn. -/
def apiHost : GatewayHost where
  metadata := { name := some "api", space := some "team" }
  virtualHost := none
  routes := [{ apiRoute with services := [⟨"api", 80, 1, none, none, none, none, none, []⟩] }]
  tcpProxy := none

/-- A cache with both hosts and the service. -/
def siteCache : Cache where
  gatewayHosts := .ofList [(⟨"default", "site"⟩, siteHost), (⟨"team", "api"⟩, apiHost)]
  services := .ofList [(⟨"team", "api"⟩,
    ⟨{ name := some "api", space := some "team" }, none, none, [⟨none, 80⟩]⟩)]

/-- The host of the root gets its routes in a cache with delegation. -/
theorem site_plainRoutes :
    Accepted siteCache ⟨"default", "site"⟩ siteHost ⟨"site.test", none, []⟩ .off ∧
    ∃ entries merged routes, HostRoutes siteCache ⟨"default", "site"⟩ siteHost
      ⟨"site.test", none, []⟩ .off entries merged routes := by
  have accepted : Accepted siteCache ⟨"default", "site"⟩ siteHost ⟨"site.test", none, []⟩ .off :=
    ⟨rfl, rfl, rfl, rfl⟩
  have unclaimed : ∀ ingress ∈ siteCache.ingresses.toList,
      ¬ Contributes siteCache "site.test" ingress := by
    intro ingress hingress
    cases hingress
  exact ⟨accepted, build_plainRoutes accepted rfl unclaimed⟩

end Build

end GatewayCompiler
