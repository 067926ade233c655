import GatewayCompiler.Proofs.Ingress
import GatewayCompiler.Proofs.Routes

/-!
# Hosts in plain text and over TLS

A root with a certificate has each of its routes attached twice: to the host over TLS as it is, and
to the host in plain text, where requests are sent to TLS unless the entry permits plain text.  The
routes come from delegates and service routes as well, and later ones replace earlier ones.  What
carries through is that both hosts hold the same attachments, in the same order.

## Main definitions

* `Attachment`, `attachments` — the routes that entries have attached.
* `lastAttached?` — the attachment that counts for a key.
* `Mirrored` — the two hosts of a name hold the same attachments.
* `Twins` — what the two hosts of a root have in common.

## Main statements

* `takeAll_mirrored` — a walk attaches the same routes to both hosts.
* `addIngresses_hostsAt` — a host that no ingress serves is not there before its root.
* `buildAll_twins` — the two hosts of a root with a certificate.
-/

namespace GatewayCompiler.Build

variable {cache : Cache}

/-! ### Attachments -/

/-- A route with the entry that it is made from, as it is attached to the hosts of a root. -/
structure Attachment where
  /-- The entry. -/
  offer : Offer
  /-- The route. -/
  route : Route

/-- `a.plainRoute` is the route as it is attached in plain text where TLS is enforced. -/
def Attachment.plainRoute (a : Attachment) : Route :=
  { a.route with httpsUpgrade := !a.offer.route.permitInsecure }

/-- `attachments cache offers` are the routes that entries attach, one after the other; an entry
without clusters attaches none. -/
def attachments (cache : Cache) : List Offer → StateM Lookups (List Attachment)
  | [] => return []
  | offer :: rest => do
    let (route, _) ← buildRoute cache offer.object.identity.space offer.route offer.conditions
    let later ← attachments cache rest
    return (route.map fun r => (⟨offer, r⟩ : Attachment)).toList ++ later

/-- `lastAttached? attached key` is the last of some attachments with `key`. -/
def lastAttached? (attached : List Attachment) (key : String) : Option Attachment :=
  (attached.filter fun a => a.route.key = key).getLast?

/-- Every attached route is made from its entry, by `RouteOf`. -/
theorem attachments_answers (offers : List Offer) :
    Answers cache (attachments cache offers) fun attached => ∀ a ∈ attached,
      a.offer ∈ offers ∧
        RouteOf cache a.offer.object.identity.space a.offer.route a.offer.conditions a.route := by
  induction offers with
  | nil => exact .pure (by simp)
  | cons offer rest ih =>
    rw [attachments]
    refine (buildRoute_answers _ _ _).bind fun made hmade => ?_
    refine ih.bind fun later hlater => .pure fun a ha => ?_
    rcases List.mem_append.mp ha with ha | ha
    · obtain ⟨route, hroute, rfl⟩ := Option.map_eq_some_iff.mp (Option.mem_toList.mp ha)
      exact ⟨List.mem_cons_self, hmade route hroute⟩
    · obtain ⟨hoffer, hroute⟩ := hlater a ha
      exact ⟨List.mem_cons_of_mem _ hoffer, hroute⟩

/-- What is found after routes are put in one after the other: the last one with the key, or what
was there before. -/
theorem find?_putRoutes (routes : OrderedMap String Route) (further : List Route) (key : String) :
    (putRoutes routes further).find? key
      = ((further.filter fun r => r.key = key).getLast?).or (routes.find? key) := by
  induction further generalizing routes with
  | nil => rfl
  | cons r rest ih =>
    change (putRoutes (routes.insert r.key r) rest).find? key = _
    rw [ih, OrderedMap.find?_insert]
    by_cases hkey : r.key = key
    · rw [if_pos hkey.symm, List.filter_cons_of_pos (by simpa using hkey), List.getLast?_cons]
      cases (rest.filter fun r => r.key = key).getLast? <;> rfl
    · rw [if_neg (Ne.symm hkey), List.filter_cons_of_neg (by simpa using hkey)]

/-- What is found after the routes of attachments are put in, in a `form` that keeps their keys. -/
theorem find?_putRoutes_map (form : Attachment → Route) (hform : ∀ a, (form a).key = a.route.key)
    (attached : List Attachment) (key : String) :
    (putRoutes {} (attached.map form)).find? key = (lastAttached? attached key).map form := by
  rw [find?_putRoutes, List.filter_map, List.getLast?_map, lastAttached?]
  simp only [Function.comp_def, hform]
  exact Option.or_none

/-! ### Both hosts of a walk -/

/-- `Mirrored name filters certificate minVersion attached b` says that the two hosts of a name hold
the same attachments and filters, and the one over TLS has a certificate.  It is what every step of
a walk keeps. -/
def Mirrored (name : String) (filters : List Filter) (certificate : KeyMaterial)
    (minVersion : MinTlsVersion) (attached : List Attachment) (b : Building) : Prop :=
  b.hostsAt name =
    (some { name, routes := putRoutes {} (attached.map Attachment.plainRoute), filters },
      some {
        host := { name, routes := putRoutes {} (attached.map Attachment.route), filters }
        certificate := some certificate
        minVersion })

namespace Building

variable {name : String} {filters : List Filter} {certificate : KeyMaterial}
  {minVersion : MinTlsVersion} {attached : List Attachment} {b : Building}

theorem report_mirrored (h : Mirrored name filters certificate minVersion attached b)
    (object : ObjectRef) (problems : List Problem) (host : String) :
    Mirrored name filters certificate minVersion attached (b.report object problems host) :=
  (report_hostsAt name object problems host b).trans h

/-- A route where TLS is enforced is attached to both hosts. -/
theorem attach_mirrored (h : Mirrored name filters certificate minVersion attached b)
    (a : Attachment) :
    Mirrored name filters certificate minVersion (attached ++ [a])
      (b.attach ⟨name, true⟩ a.route a.offer.route.permitInsecure) := by
  obtain ⟨hplain, hsecure⟩ := Prod.mk.inj h
  have hput : ∀ form : Attachment → Route, putRoutes {} ((attached ++ [a]).map form)
      = (putRoutes {} (attached.map form)).insert (form a).key (form a) := by
    intro form
    rw [List.map_append, putRoutes, List.foldl_append]
    rfl
  unfold Mirrored hostsAt attach onPlainHost onSecureHost
  simp only [if_true, OrderedMap.find?_insert_self, hplain, hsecure, Option.getD_some, hput]
  rfl

/-- A route that is served is attached to both hosts, if there is one. -/
theorem serve_mirrored (h : Mirrored name filters certificate minVersion attached b)
    {offer : Offer} {route : Option Route} {problems : List Problem} {known : Lookups}
    (hbuild : (buildRoute cache offer.object.identity.space offer.route offer.conditions).run
      b.lookups = ((route, problems), known)) :
    Mirrored name filters certificate minVersion
      (attached ++ (route.map fun r => (⟨offer, r⟩ : Attachment)).toList)
      (b.serve cache ⟨name, true⟩ offer.object offer.route offer.conditions) := by
  have hlook : Mirrored name filters certificate minVersion attached { b with lookups := known } := h
  have hreport := report_mirrored hlook offer.object problems name
  unfold serve look
  rw [hbuild]
  cases route with
  | none => simpa using hreport
  | some route => exact attach_mirrored hreport ⟨offer, route⟩

/-- A walk that forwards nothing attaches the same routes to both hosts. -/
theorem takeAll_mirrored (h : Mirrored name filters certificate minVersion attached b)
    (steps : List Step) (hsteps : ∀ owner services, .forward owner services ∉ steps) :
    Mirrored name filters certificate minVersion
      (attached ++ ((attachments cache (steps.filterMap Step.offer?)).run b.lookups).1)
      (b.takeAll cache ⟨name, true⟩ steps) := by
  induction steps generalizing b attached with
  | nil =>
    change Mirrored name filters certificate minVersion (attached ++ []) b
    rwa [List.append_nil]
  | cons s rest ih =>
    have hrest : ∀ owner services, .forward owner services ∉ rest :=
      fun owner services hmem => hsteps owner services (List.mem_cons_of_mem _ hmem)
    change Mirrored name filters certificate minVersion _
      ((b.take cache ⟨name, true⟩ s).takeAll cache ⟨name, true⟩ rest)
    cases s with
    | serve object spec conditions =>
      have hserve := @serve_mirrored cache name filters certificate minVersion attached b h
        ⟨object, spec, conditions⟩ _ _ _ rfl
      -- the look-ups of the further entries go on from what this one remembers
      have hlookups := (@serve_routesAt cache ⟨name, true⟩ object spec conditions b _ _ _ rfl).1
      have hlater := ih hserve hrest
      rw [hlookups, List.append_assoc] at hlater
      exact hlater
    | forward owner services => exact absurd List.mem_cons_self (hsteps owner services)
    | reach target => exact ih h hrest
    | merge identity => exact ih h hrest
    | settle object outcome => exact ih h hrest

/-- The hosts of a root with a certificate are made with the same filters and without routes, so
that they are `Mirrored` to begin with. -/
theorem openRoot_mirrored {root : Identity} {host : GatewayHost} {v : VirtualHostSpec}
    (tcp : host.tcpProxy = none) (hnone : b.hostsAt v.domain = (none, none)) :
    Mirrored v.domain
      (({ name := v.domain } : VirtualHost).addFilters
        (resolveFilters cache .virtualHost root.space v.filters).1).filters
      certificate minVersion []
      (b.openRoot cache root host v (.terminate certificate minVersion)) := by
  unfold openRoot
  generalize resolveFilters cache .virtualHost root.space v.filters = found
  obtain ⟨filters, problems⟩ := found
  obtain ⟨statuses, heq⟩ := report_eq (hostRef root) problems v.domain b
  obtain ⟨hplain, hsecure⟩ := Prod.mk.inj hnone
  unfold Mirrored hostsAt onPlainHost onSecureHost
  simp only [heq, tcp, Option.isSome_none, Bool.false_eq_true, if_false,
    OrderedMap.find?_insert_self, hplain, hsecure]
  rfl

end Building

/-! ### Ingresses -/

/-- `Claims cache name ingress` says that an ingress serves a host: it contributes a route in plain
text, or one of its parts gives the host a certificate. -/
def Claims (cache : Cache) (name : String) (ingress : Identity × Ingress) : Prop :=
  Contributes cache name ingress ∨ ∃ tls ∈ ingress.2.spec.tls, ∃ certificate,
    Grants cache ingress.1.space tls name certificate

namespace Building

/-- An ingress that gives no certificate to a host leaves the host over TLS alone. -/
theorem addSecureGrants_secure {name : String} {ingress : Identity × Ingress} {b : Building}
    (hb : b.lookups.Sound cache) (hnot : ¬ Claims cache name ingress) :
    (b.addSecureGrants cache ingress).secure.find? name = b.secure.find? name := by
  unfold addSecureGrants
  have hanswer := look_answer (secureGrants_answers ingress.1.space
    (MinTlsVersion.ofText (ingress.2.metadata.annotation Annotation.minTlsVersion))
    ingress.2.spec.tls) hb
  have hlook : (b.look (secureGrants cache ingress.1.space
    (MinTlsVersion.ofText (ingress.2.metadata.annotation Annotation.minTlsVersion))
    ingress.2.spec.tls)).2.secure = b.secure := rfl
  simp only
  generalize b.look _ = found at hanswer hlook ⊢
  obtain ⟨grants, b'⟩ := found
  change b'.secure = b.secure at hlook
  -- over the grants: each is for a host of the ingress, and none of them is for `name`
  refine List.foldlRecOn (motive := fun b' : Building =>
    b'.secure.find? name = b.secure.find? name) _ _ (congrArg (·.find? name) hlook) ?_
  intro b' hsame g hg
  obtain ⟨tls, htls, hgrants⟩ := hanswer g hg
  have hne : name ≠ g.host := by
    rintro rfl
    exact hnot (.inr ⟨tls, htls, g.certificate, hgrants⟩)
  exact (congrArg Prod.snd (hostsAt_onSecureHost_of_ne _ b' hne)).trans hsame

/-- Routes of ingresses make no host over TLS: they are attached to one that is there. -/
theorem attachIngress_absent {name : String} {b : Building} (hnone : b.secure.find? name = none)
    (m : Metadata) (host : String) (route : Route) :
    (b.attachIngress m host route).secure.find? name = none := by
  rw [attachIngress_secure]
  split
  · next hthere =>
    -- the host that gets the route is there already, so that it is another one
    have hne : name ≠ host := by
      rintro rfl
      simp [OrderedMap.contains, hnone] at hthere
    exact (congrArg Prod.snd (hostsAt_onSecureHost_of_ne _ b hne)).trans hnone
  · exact hnone

theorem addIngress_secure {name : String} {b : Building} (hnone : b.secure.find? name = none)
    (ingress : Identity × Ingress) : (b.addIngress cache ingress).secure.find? name = none := by
  unfold addIngress
  -- over the entries: a host that is not there gets no routes over TLS
  refine List.foldlRecOn (motive := fun b' : Building => b'.secure.find? name = none) _ _ hnone ?_
  intro b' hnone' entry _
  unfold addIngressEntry
  cases entry.backend? ingress.1.space with
  | none => exact hnone'
  | some named =>
    have hlook : (b'.look (lookupBackend cache named.1 named.2 none)).2.secure.find? name = none :=
      hnone'
    simp only
    generalize b'.look (lookupBackend cache named.1 named.2 none) = found at hlook ⊢
    obtain ⟨backend, b''⟩ := found
    cases backend with
    | none => exact hlook
    | some backend => exact attachIngress_absent hlook _ _ _

end Building

/-- A host that no ingress serves is not there after the passes over the ingresses. -/
theorem addIngresses_hostsAt {name : String}
    (hnot : ∀ ingress ∈ cache.ingresses.toList, ¬ Claims cache name ingress) :
    (addIngresses cache).hostsAt name = (none, none) := by
  have hplain : (addIngresses cache).plain.find? name = none :=
    addIngresses_plain fun ingress hingress h => hnot ingress hingress (.inl h)
  have hgrants : (cache.ingresses.toList.foldl (Building.addSecureGrants cache) {}).secure.find? name
      = none := by
    refine (List.foldlRecOn (motive := fun b : Building =>
      b.lookups.Sound cache ∧ b.secure.find? name = none) _ _ ⟨.empty, rfl⟩ ?_).2
    rintro b ⟨hsound, hnone⟩ ingress hingress
    refine ⟨(Building.addSecureGrants_follows b ingress hsound).lookups hsound, ?_⟩
    rw [Building.addSecureGrants_secure hsound (hnot ingress hingress), hnone]
  have hsecure : (addIngresses cache).secure.find? name = none :=
    List.foldlRecOn (motive := fun b : Building => b.secure.find? name = none) _ _ hgrants
      fun b hnone ingress _ => Building.addIngress_secure hnone ingress
  rw [Building.hostsAt, hplain, hsecure]

/-! ### The hosts of a root with a certificate -/

/-- `rootAttachments cache root host v` is what a root with a certificate has attached to its
hosts. -/
def rootAttachments [Pattern.Engine] (cache : Cache) (root : Identity) (host : GatewayHost)
    (v : VirtualHostSpec) :
    List Attachment :=
  ((attachments cache ((serveSteps cache root host v.domain).filterMap Step.offer?)).run
    (rootLookups cache root v)).1

/-- A root with a certificate that is served by its routes, and whose hosts no ingress serves, gets
both hosts with the same attachments. -/
theorem buildAll_mirrored [Pattern.Engine] {root : Identity} {host : GatewayHost}
    {v : VirtualHostSpec}
    {certificate : KeyMaterial} {minVersion : MinTlsVersion}
    (accepted : Accepted cache root host v (.terminate certificate minVersion))
    (tcp : host.tcpProxy = none)
    (unclaimed : ∀ ingress ∈ cache.ingresses.toList, ¬ Claims cache v.domain ingress) :
    ∃ filters, Mirrored v.domain filters certificate minVersion
      (rootAttachments cache root host v) (buildAll cache) := by
  obtain ⟨hbefore, hrest⟩ := buildAll_hostsAt accepted
  have hserves : TlsMode.forwards (.terminate certificate minVersion) host = false := by
    simp [TlsMode.forwards, tcp]
  -- neither host is there before the root is served
  have hnone : ((buildBefore cache root).look (checkRoot cache root v).run).2.hostsAt v.domain
      = (none, none) := hbefore.trans (addIngresses_hostsAt unclaimed)
  have hopen := @Building.openRoot_mirrored cache certificate minVersion _ root host v tcp hnone
  have hlookups := (@Building.openRoot_routesAt cache root host v (.terminate certificate minVersion)
    ((buildBefore cache root).look (checkRoot cache root v).run).2).1
  have hwalk := @Building.takeAll_mirrored cache _ _ _ _ _ _ hopen
    (serveSteps cache root host v.domain) (forward_notMem_serveSteps root host v.domain)
  rw [hlookups, List.nil_append] at hwalk
  have hroot := Building.addRoot_eq accepted (buildBefore_sound cache root)
  rw [walkSteps, hserves] at hroot
  exact ⟨_, hrest.trans ((congrArg (Building.hostsAt v.domain) hroot).trans hwalk)⟩

/-- `Twins cache root host v certificate minVersion plain secure` says what is true of the two hosts
of a root with a certificate, before hosts without use are dropped. -/
structure Twins [Pattern.Engine] (cache : Cache) (root : Identity) (host : GatewayHost)
    (v : VirtualHostSpec)
    (certificate : KeyMaterial) (minVersion : MinTlsVersion) (plain : VirtualHost)
    (secure : SecureHost) : Prop where
  /-- The host in plain text is there. -/
  plainHost : ((buildAll cache).recordOrphans cache).plain.find? v.domain = some plain
  /-- The host over TLS is there. -/
  secureHost : ((buildAll cache).recordOrphans cache).secure.find? v.domain = some secure
  /-- The root names the certificate and the lowest TLS version. -/
  named : ∃ tls, v.tls = some tls ∧ NamesCertificate cache root.space tls certificate minVersion
  /-- The host over TLS has the certificate. -/
  certificate : secure.certificate = some certificate
  /-- It has the lowest TLS version. -/
  minVersion : secure.minVersion = minVersion
  /-- Both hosts have routes under the same keys. -/
  keys : plain.routes.keys = secure.host.routes.keys
  /-- Key by key, the routes are the same but for the redirection to TLS. -/
  routes : ∀ key plainRoute route, plain.routes.find? key = some plainRoute →
    secure.host.routes.find? key = some route →
    plainRoute = { route with httpsUpgrade := plainRoute.httpsUpgrade }
  /-- Both hosts have the same filters. -/
  filters : plain.filters = secure.host.filters
  /-- No route over TLS is redirected. -/
  served : ∀ key route, secure.host.routes.find? key = some route → route.httpsUpgrade = false
  /-- The routes of a key are those that were attached last. -/
  last : ∀ key,
    plain.routes.find? key
      = (lastAttached? (rootAttachments cache root host v) key).map Attachment.plainRoute ∧
    secure.host.routes.find? key
      = (lastAttached? (rootAttachments cache root host v) key).map Attachment.route
  /-- Attached routes are made from entries that the walk of the root serves. -/
  made : ∀ a ∈ rootAttachments cache root host v,
    a.offer ∈ (serveSteps cache root host v.domain).filterMap Step.offer? ∧
      RouteOf cache a.offer.object.identity.space a.offer.route a.offer.conditions a.route
  /-- A route in plain text is served there only if the entry that was attached last permits it. -/
  permitted : ∀ key plainRoute, plain.routes.find? key = some plainRoute →
    plainRoute.httpsUpgrade = false →
    ∃ a, lastAttached? (rootAttachments cache root host v) key = some a ∧
      a.offer.route.permitInsecure = true

/-- **Both hosts of a root.** A root with a certificate that is the only one of its domain name and
is served by its routes: if no ingress serves its hosts, both of them are there, with the same
attachments. -/
theorem buildAll_twins [Pattern.Engine] {root : Identity} {host : GatewayHost} {v : VirtualHostSpec}
    {certificate : KeyMaterial} {minVersion : MinTlsVersion}
    (accepted : Accepted cache root host v (.terminate certificate minVersion))
    (tcp : host.tcpProxy = none)
    (unclaimed : ∀ ingress ∈ cache.ingresses.toList, ¬ Claims cache v.domain ingress) :
    ∃ plain secure, Twins cache root host v certificate minVersion plain secure := by
  obtain ⟨filters, hmirrored⟩ := buildAll_mirrored accepted tcp unclaimed
  have hhosts : Mirrored v.domain filters certificate minVersion (rootAttachments cache root host v)
      ((buildAll cache).recordOrphans cache) :=
    (Building.recordOrphans_hostsAt cache v.domain (buildAll cache)).trans hmirrored
  obtain ⟨hplain, hsecure⟩ := Prod.mk.inj hhosts
  have hmade := (@attachments_answers cache
    ((serveSteps cache root host v.domain).filterMap Step.offer?) (rootLookups cache root v)
    ((Building.look_follows (checkRoot_answers root v) _).lookups (buildBefore_sound cache root))).1
  have hlastPlain := find?_putRoutes_map Attachment.plainRoute (fun _ => rfl)
    (rootAttachments cache root host v)
  have hlastSecure := find?_putRoutes_map Attachment.route (fun _ => rfl)
    (rootAttachments cache root host v)
  refine ⟨_, _, {
    plainHost := hplain
    secureHost := hsecure
    named := rootMode_certificate accepted.mode
    certificate := rfl
    minVersion := rfl
    keys := ?_
    routes := ?_
    filters := rfl
    served := ?_
    last := fun key => ⟨hlastPlain key, hlastSecure key⟩
    made := hmade
    permitted := ?_ }⟩
  · refine OrderedMap.keys_eq_of_contains fun key => ?_
    simp only [OrderedMap.contains, hlastPlain, hlastSecure, Option.isSome_map]
  · intro key plainRoute route hfind hfind'
    rw [hlastPlain] at hfind
    rw [hlastSecure] at hfind'
    obtain ⟨a, ha, rfl⟩ := Option.map_eq_some_iff.mp hfind
    obtain ⟨a', ha', rfl⟩ := Option.map_eq_some_iff.mp hfind'
    rw [ha] at ha'
    cases ha'
    rfl
  · -- no route is made with a redirection
    intro key route hfind
    rw [hlastSecure] at hfind
    obtain ⟨a, ha, rfl⟩ := Option.map_eq_some_iff.mp hfind
    have hmem : a ∈ rootAttachments cache root host v :=
      (List.mem_filter.mp (List.mem_of_getLast? ha)).1
    obtain ⟨filters, hshape⟩ := (hmade a hmem).2.shape
    rw [hshape]
    rfl
  · intro key plainRoute hfind hserved
    rw [hlastPlain] at hfind
    obtain ⟨a, ha, rfl⟩ := Option.map_eq_some_iff.mp hfind
    exact ⟨a, ha, by simpa [Attachment.plainRoute] using hserved⟩

/-! ### A root with a certificate -/

/-- A root that is served over TLS, and in plain text as far as its only route permits it. -/
def shopHost : GatewayHost where
  metadata := { name := some "shop", space := some "default" }
  virtualHost := some ⟨"shop.test", some ⟨some "shop-tls", some "1.2", false⟩, []⟩
  routes := [{ apiRoute with
    services := [⟨"shop", 80, 1, none, none, none, none, none, []⟩], permitInsecure := true }]
  tcpProxy := none

/-- A cache with `shopHost`, its service and its certificate. -/
def shopCache : Cache where
  gatewayHosts := .ofList [(⟨"default", "shop"⟩, shopHost)]
  services := .ofList [(⟨"default", "shop"⟩,
    ⟨{ name := some "shop", space := some "default" }, none, none, [⟨none, 80⟩]⟩)]
  secrets := .ofList [(⟨"default", "shop-tls"⟩,
    ⟨{ name := some "shop-tls", space := some "default" },
      .ofList [("tls.crt", [1]), ("tls.key", [2])]⟩)]

/-- Both hosts of the root are there. -/
theorem shop_twins :
    Accepted shopCache ⟨"default", "shop"⟩ shopHost
      ⟨"shop.test", some ⟨some "shop-tls", some "1.2", false⟩, []⟩
      (.terminate ⟨⟨"default", "shop-tls"⟩, .ofList [("tls.crt", [1]), ("tls.key", [2])]⟩ .v12) ∧
    ∃ plain secure, Twins shopCache ⟨"default", "shop"⟩ shopHost
      ⟨"shop.test", some ⟨some "shop-tls", some "1.2", false⟩, []⟩
      ⟨⟨"default", "shop-tls"⟩, .ofList [("tls.crt", [1]), ("tls.key", [2])]⟩ .v12 plain secure := by
  have accepted : Accepted shopCache ⟨"default", "shop"⟩ shopHost
      ⟨"shop.test", some ⟨some "shop-tls", some "1.2", false⟩, []⟩
      (.terminate ⟨⟨"default", "shop-tls"⟩, .ofList [("tls.crt", [1]), ("tls.key", [2])]⟩ .v12) :=
    ⟨rfl, rfl, rfl, rfl⟩
  have unclaimed : ∀ ingress ∈ shopCache.ingresses.toList, ¬ Claims shopCache "shop.test" ingress := by
    intro ingress hingress
    cases hingress
  exact ⟨accepted, buildAll_twins accepted rfl unclaimed⟩

end GatewayCompiler.Build
