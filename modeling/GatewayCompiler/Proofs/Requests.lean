import GatewayCompiler.Proofs.Routes

/-!
# What a build asks for

A build looks ports and secrets up, one after the other.  Which ports it asks for depends on the cache
alone: first those of the entries of the ingresses, and then those of the services that the walks of the
roots come to.  A service that is not in order is not asked for, and the services of a forwarding are asked
for up to the first one that is missing.

## Main definitions

* `Query`, `Lookups.after` — look-ups one after the other.
* `Asks`, `Asked` — the ports that an action or a part of a build asks for.
* `portRequests` — the ports that a build asks for, in order.

## Main statements

* `buildRoute_asks`, `forwardClusters_asks` — what routes and forwardings ask for.
* `buildAll_asked` — a build asks for its ports.
-/

namespace GatewayCompiler.Build

variable {α β : Type} {cache : Cache}

/-! ### Look-ups one after the other -/

/-- A port of a service that is asked for. -/
abbrev PortRequest := Identity × PortSelector

/-- Something that is looked up.  Only ports and secrets go through the memo of a build. -/
inductive Query
  /-- A port. -/
  | port (request : PortRequest)
  /-- A secret. -/
  | secret (identity : Identity)

/-- `query.port?` is the port that is looked up, if it is one. -/
def Query.port? : Query → Option PortRequest
  | .port request => some request
  | .secret _ => none

namespace Lookups

/-- `known.ask cache query` is what is remembered after a look-up. -/
def ask (cache : Cache) (known : Lookups) : Query → Lookups
  | .port (identity, selector) => ((lookupPort cache identity selector).run known).2
  | .secret identity => ((lookupSecret cache identity).run known).2

/-- `known.after cache queries` is what is remembered after the look-ups `queries`, in their
order. -/
def after (cache : Cache) (queries : List Query) (known : Lookups) : Lookups :=
  queries.foldl (ask cache) known

variable {known : Lookups}

theorem after_append (queries further : List Query) :
    known.after cache (queries ++ further) = (known.after cache queries).after cache further :=
  List.foldl_append ..

theorem Sound.ask (h : known.Sound cache) (query : Query) : (known.ask cache query).Sound cache := by
  cases query with
  | port request => exact (lookupPort_answers request.1 request.2 known h).2
  | secret identity => exact (lookupSecret_answers identity known h).2

theorem Sound.after (h : known.Sound cache) (queries : List Query) :
    (known.after cache queries).Sound cache := by
  induction queries generalizing known with
  | nil => exact h
  | cons query rest ih => exact ih (h.ask query)

end Lookups

/-! ### The ports that an action asks for -/

/-- `Asks cache action requests` says that an action asks for the ports of `requests`, one after the
other, and perhaps for secrets. -/
def Asks (cache : Cache) (action : StateM Lookups α) (requests : List PortRequest) : Prop :=
  ∀ known : Lookups, known.Sound cache → ∃ queries : List Query,
    queries.filterMap Query.port? = requests ∧ (action.run known).2 = known.after cache queries

namespace Asks

variable {action : StateM Lookups α} {requests further : List PortRequest}

theorem pure (a : α) : Asks cache (Pure.pure a) [] := fun _ _ => ⟨[], rfl, rfl⟩

/-- Whatever is asked for, only what the cache says is remembered. -/
theorem answers (h : Asks cache action requests) : Answers cache action fun _ => True := by
  intro known hknown
  obtain ⟨queries, -, hlookups⟩ := h known hknown
  rw [hlookups]
  exact ⟨trivial, hknown.after queries⟩

/-- An answer may decide what is asked for next, as far as `Q` says what it can be. -/
theorem bindAnswer {next : α → StateM Lookups β} {Q : α → Prop} (h : Asks cache action requests)
    (hanswers : Answers cache action Q) (hnext : ∀ a, Q a → Asks cache (next a) further) :
    Asks cache (action >>= next) (requests ++ further) := by
  intro known hknown
  obtain ⟨queries, hrequests, hlookups⟩ := h known hknown
  obtain ⟨hanswer, hsound⟩ := hanswers known hknown
  obtain ⟨queries', hrequests', hlookups'⟩ := hnext _ hanswer _ hsound
  refine ⟨queries ++ queries', ?_, ?_⟩
  · rw [List.filterMap_append, hrequests, hrequests']
  · rw [Lookups.after_append, ← hlookups]
    exact hlookups'

theorem bind {next : α → StateM Lookups β} (h : Asks cache action requests)
    (hnext : ∀ a, Asks cache (next a) further) : Asks cache (action >>= next) (requests ++ further) :=
  h.bindAnswer h.answers fun a _ => hnext a

/-- Nothing more is asked for. -/
theorem map (h : Asks cache action requests) (change : α → β) :
    Asks cache (action >>= fun a => Pure.pure (change a)) requests := by
  have hmap := h.bind fun a => @Asks.pure β cache (change a)
  rwa [List.append_nil] at hmap

/-- A look-up that cannot fail is followed by a part of a build that may fail. -/
theorem bindLift {next : α → Attempt β} (h : Asks cache action requests)
    (hnext : ∀ a, Asks cache (next a).run further) :
    Asks cache (ExceptT.run (liftM action >>= next)) (requests ++ further) := h.bind hnext

/-- Nothing more is asked for after a part of a build that may fail. -/
theorem bindAttempt {action : Attempt α} {next : α → Attempt β} (h : Asks cache action.run requests)
    (hnext : ∀ a, Asks cache (next a).run []) : Asks cache (action >>= next).run requests := by
  rw [ExceptT.run_bind, ← List.append_nil requests]
  refine h.bind fun result => ?_
  cases result with
  | ok a => exact hnext a
  | error problem => exact .pure _

/-- A `check` that looks nothing up comes before the rest. -/
theorem bindExcept {check : Except Problem α} {next : α → Attempt β}
    (hok : ∀ a, check = .ok a → Asks cache (next a).run requests)
    (herror : ∀ problem, check = .error problem → requests = []) :
    Asks cache (ExceptT.run ((liftM check : Attempt α) >>= next)) requests := by
  cases check with
  | ok a => exact hok a rfl
  | error problem =>
    rw [herror problem rfl]
    exact .pure _

end Asks

theorem lookupPort_asks (identity : Identity) (selector : PortSelector) :
    Asks cache (lookupPort cache identity selector) [(identity, selector)] :=
  fun _ _ => ⟨[.port (identity, selector)], rfl, rfl⟩

theorem lookupBackend_asks (identity : Identity) (selector : PortSelector) (given : Option Protocol) :
    Asks cache (lookupBackend cache identity selector given) [(identity, selector)] := by
  rw [← List.append_nil [(identity, selector)]]
  refine (lookupPort_asks identity selector).bind fun found => ?_
  cases found with
  | none => exact .pure _
  | some resolved => exact .pure _

theorem lookupSecret_asks (identity : Identity) : Asks cache (lookupSecret cache identity) [] :=
  fun _ _ => ⟨[.secret identity], rfl, rfl⟩

/-- For a secret no port is asked for. -/
theorem OneSecret.asks {P : α → Prop} {action : StateM Lookups α} (h : OneSecret cache P action) :
    Asks cache action [] := by
  cases h with
  | answered holds => exact .pure _
  | asked identity answers =>
    refine (lookupSecret_asks identity).bind fun found => ?_
    obtain ⟨a, hnext, -⟩ := answers found
    rw [hnext]
    exact .pure _

/-! ### Clusters and forwardings -/

/-- `serviceRequest? space s` is what a service asks for: its port, if its number, its weight and
its protocol are in order. -/
def serviceRequest? (space : String) (s : ServiceSpec) : Option PortRequest :=
  match checkService s, givenProtocol s with
  | .ok _, .ok _ => some (⟨space, s.name⟩, .number s.number)
  | _, _ => none

theorem buildCluster_asks (space : String) (s : ServiceSpec) :
    Asks cache (buildCluster cache space s).run (serviceRequest? space s).toList := by
  unfold buildCluster
  -- a service is asked for once its own fields have passed
  refine .bindExcept (fun _ hcheck => ?_) fun problem hcheck => by simp [serviceRequest?, hcheck]
  refine .bindExcept (fun given hgiven => ?_) fun problem hgiven => by
    simp [serviceRequest?, hcheck, hgiven]
  have hrequest : (serviceRequest? space s).toList = [(⟨space, s.name⟩, .number s.number)] ++ [] := by
    simp [serviceRequest?, hcheck, hgiven]
  rw [hrequest]
  refine (lookupBackend_asks _ _ _).bindLift fun found => ?_
  cases found with
  | none => exact .pure _
  | some backend =>
    simp only
    split
    · refine (buildValidation_result space s).asks.bindAttempt fun validation => ?_
      exact (buildClientCertificate_result space s).asks.bindAttempt fun keys => .pure _
    · exact .pure _

theorem buildClusters_asks (space : String) (services : List ServiceSpec) :
    Asks cache (buildClusters cache space services) (services.filterMap (serviceRequest? space)) := by
  -- the requests come in the order of the services, whether or not a cluster is made
  induction services with
  | nil => exact .pure _
  | cons s rest ih =>
    rw [buildClusters]
    have hrequests : (s :: rest).filterMap (serviceRequest? space)
        = (serviceRequest? space s).toList ++ rest.filterMap (serviceRequest? space) := by
      rw [List.filterMap_cons]
      cases serviceRequest? space s with
      | none => rfl
      | some request => rfl
    rw [hrequests]
    refine (buildCluster_asks space s).bind fun built => ?_
    cases built with
    | ok made => exact ih.map _
    | error problem => exact ih.map _

theorem buildRoute_asks (space : String) (spec : RouteSpec) (conditions : List Condition) :
    Asks cache (buildRoute cache space spec conditions)
      (spec.services.filterMap (serviceRequest? space)) := by
  unfold buildRoute
  split
  · next hempty =>
    rw [hempty]
    exact .pure _
  · exact (buildClusters_asks space spec.services).map _

/-- `forwardRequests cache space services` are the services of a forwarding that are asked for, up
to the first one that is missing. -/
def forwardRequests (cache : Cache) (space : String) : List ServiceSpec → List PortRequest
  | [] => []
  | s :: rest =>
    (⟨space, s.name⟩, .number s.number) ::
      if (findPort? cache ⟨space, s.name⟩ (.number s.number)).isSome then forwardRequests cache space rest
      else []

theorem forwardClusters_asks (space : String) (services : List ServiceSpec) :
    Asks cache (Building.forwardClusters cache space services) (forwardRequests cache space services) := by
  induction services with
  | nil => exact .pure _
  | cons s rest ih =>
    rw [Building.forwardClusters, forwardRequests]
    refine (lookupPort_asks _ _).bindAnswer (lookupPort_answers _ _) fun found hfound => ?_
    cases h : findPort? cache ⟨space, s.name⟩ (.number s.number) with
    | none =>
      rw [h] at hfound
      subst hfound
      exact .pure _
    | some p =>
      rw [h] at hfound
      obtain ⟨resolved, rfl, -⟩ := hfound
      exact ih.map _

/-! ### Certificates -/

theorem secureGrants_asks (space : String) (minVersion : MinTlsVersion) (entries : List IngressTls) :
    Asks cache (secureGrants cache space minVersion entries) [] := by
  induction entries with
  | nil => exact .pure _
  | cons tls rest ih =>
    rw [secureGrants]
    refine (grantedKeypair?_result space tls).asks.bind fun found => ih.bind fun grants => ?_
    cases found with
    | none => exact .pure _
    | some certificate => exact .pure _

/-! ### What a build asks for -/

/-- `s.portRequests cache` are the ports that the step `s` asks for. -/
def Step.portRequests (cache : Cache) : Step → List PortRequest
  | .serve object route _ => route.services.filterMap (serviceRequest? object.identity.space)
  | .forward owner services => forwardRequests cache owner.space services
  | .reach _ | .merge _ | .settle .. => []

/-- `ingressEntries cache` are the entries of all ingresses, each with its ingress, in order. -/
def ingressEntries (cache : Cache) : List ((Identity × Ingress) × IngressEntry) :=
  cache.ingresses.toList.flatMap fun ingress => (ingressPaths ingress.2.spec).map (Prod.mk ingress)

/-- `entryRequest? entry` is the port that an entry of an ingress asks for. -/
def entryRequest? (entry : (Identity × Ingress) × IngressEntry) : Option PortRequest :=
  entry.2.backend? entry.1.1.space

/-- `ingressRequests cache` are the ports that ingresses ask for. -/
def ingressRequests (cache : Cache) : List PortRequest := (ingressEntries cache).filterMap entryRequest?

/-- `portRequests cache` are the ports that a build asks for: first for the ingresses, then for the
roots. -/
def portRequests [Pattern.Engine] (cache : Cache) : List PortRequest :=
  ingressRequests cache ++
    cache.gatewayHosts.toList.flatMap fun root => (rootSteps cache root).flatMap (Step.portRequests cache)

/-- `Asked cache requests b b'` says that from the build `b` to `b'`, the ports of `requests` are
asked for. -/
def Asked (cache : Cache) (requests : List PortRequest) (b b' : Building) : Prop :=
  ∃ queries : List Query, queries.filterMap Query.port? = requests ∧
    b'.lookups = b.lookups.after cache queries

variable {b b' b'' : Building} {requests further : List PortRequest}

namespace Asked

/-- Changes that leave `lookups` as they are ask for nothing. -/
theorem of_lookups_eq (h : b'.lookups = b.lookups) : Asked cache [] b b' := ⟨[], rfl, h⟩

theorem refl (b : Building) : Asked cache [] b b := of_lookups_eq rfl

theorem sound (h : Asked cache requests b b') (hb : b.lookups.Sound cache) :
    b'.lookups.Sound cache := by
  obtain ⟨queries, -, hlookups⟩ := h
  rw [hlookups]
  exact hb.after queries

theorem append (h : Asked cache requests b b') (h' : Asked cache further b' b'') :
    Asked cache (requests ++ further) b b'' := by
  obtain ⟨queries, hrequests, hlookups⟩ := h
  obtain ⟨queries', hrequests', hlookups'⟩ := h'
  refine ⟨queries ++ queries', ?_, ?_⟩
  · rw [List.filterMap_append, hrequests, hrequests']
  · rw [Lookups.after_append, ← hlookups, hlookups']

/-- Nothing more is asked for. -/
theorem congr (h : Asked cache requests b b') (hsame : b''.lookups = b'.lookups) :
    Asked cache requests b b'' := by
  obtain ⟨queries, hrequests, hlookups⟩ := h
  exact ⟨queries, hrequests, hsame.trans hlookups⟩

/-- A fold asks for what its rounds ask for, one after the other. -/
theorem foldl {op : Building → α → Building} {requestsOf : α → List PortRequest}
    (h : ∀ b a, b.lookups.Sound cache → Asked cache (requestsOf a) b (op b a)) (items : List α)
    (hb : b.lookups.Sound cache) : Asked cache (items.flatMap requestsOf) b (items.foldl op b) := by
  induction items generalizing b with
  | nil => exact refl b
  | cons a rest ih =>
    have ha := h b a hb
    rw [List.flatMap_cons]
    exact ha.append (ih (ha.sound hb))

end Asked

namespace Building

theorem look_asked {action : StateM Lookups α} (h : Asks cache action requests)
    (hb : b.lookups.Sound cache) : Asked cache requests b (b.look action).2 := h b.lookups hb

theorem serve_asked (place : Place) (object : ObjectRef) (spec : RouteSpec)
    (conditions : List Condition) (hb : b.lookups.Sound cache) :
    Asked cache (spec.services.filterMap (serviceRequest? object.identity.space)) b
      (b.serve cache place object spec conditions) := by
  have hlook := look_asked (buildRoute_asks object.identity.space spec conditions) hb
  unfold serve
  generalize b.look (buildRoute cache object.identity.space spec conditions) = found at hlook ⊢
  obtain ⟨⟨route, problems⟩, b'⟩ := found
  have hreport := hlook.congr (report_lookups object problems place.host b')
  cases route with
  | none => exact hreport
  | some route => exact hreport.congr (attach_lookups place route spec.permitInsecure _)

theorem forward_asked (place : Place) (owner : Identity) (services : List ServiceSpec)
    (hb : b.lookups.Sound cache) :
    Asked cache (forwardRequests cache owner.space services) b (b.forward cache place owner services) := by
  have hlook := look_asked (forwardClusters_asks owner.space services) hb
  unfold forward
  generalize b.look (forwardClusters cache owner.space services) = found at hlook ⊢
  obtain ⟨clusters, b'⟩ := found
  cases clusters with
  | error problem => exact hlook.congr rfl
  | ok clusters => exact hlook.congr rfl

theorem take_asked (place : Place) (b : Building) (s : Step) (hb : b.lookups.Sound cache) :
    Asked cache (s.portRequests cache) b (b.take cache place s) := by
  cases s with
  | serve object route conditions => exact serve_asked place object route conditions hb
  | forward owner services => exact forward_asked place owner services hb
  | reach target => exact .of_lookups_eq rfl
  | merge identity => exact .of_lookups_eq rfl
  | settle object outcome => exact .of_lookups_eq rfl

/-- A walk asks for what its steps ask for. -/
theorem takeAll_asked (place : Place) (steps : List Step) (hb : b.lookups.Sound cache) :
    Asked cache (steps.flatMap (Step.portRequests cache)) b (b.takeAll cache place steps) :=
  .foldl (take_asked place) steps hb

theorem openRoot_lookups (root : Identity) (host : GatewayHost) (v : VirtualHostSpec) (mode : TlsMode)
    (b : Building) : (b.openRoot cache root host v mode).lookups = b.lookups :=
  (openRoot_routesAt root host v mode b).1

theorem reportSteps_portRequests (object : ObjectRef) (problems : List Problem) :
    (reportSteps object problems).flatMap (Step.portRequests cache) = [] := by
  rw [List.flatMap_eq_nil_iff]
  intro s hs
  obtain ⟨problem, -, rfl⟩ := List.mem_map.mp hs
  rfl

theorem addRoot_asked [Pattern.Engine] (b : Building) (root : Identity × GatewayHost)
    (hb : b.lookups.Sound cache) :
    Asked cache ((rootSteps cache root).flatMap (Step.portRequests cache)) b (b.addRoot cache root) := by
  unfold addRoot rootSteps
  cases root.2.virtualHost with
  | none => exact .refl b
  | some v =>
    simp only
    split
    · exact .refl b
    · have hlook := look_asked (checkRoot_result root.1 v).asks hb
      have hmode := look_answer (checkRoot_answers root.1 v) hb
      generalize b.look (checkRoot cache root.1 v).run = found at hmode hlook ⊢
      obtain ⟨mode, b'⟩ := found
      change mode = rootMode cache root.1 v at hmode
      subst hmode
      cases rootMode cache root.1 v with
      | error problem => exact hlook.congr rfl
      | ok mode =>
        simp only
        rw [enterRoot_eq, List.flatMap_append, reportSteps_portRequests]
        have hopen := hlook.congr (@openRoot_lookups cache root.1 root.2 v mode b')
        exact hopen.append (takeAll_asked _ _ (hopen.sound hb))

/-! ### Ingresses -/

theorem addSecureGrants_asked (b : Building) (ingress : Identity × Ingress)
    (hb : b.lookups.Sound cache) : Asked cache [] b (b.addSecureGrants cache ingress) := by
  have hlook := look_asked (secureGrants_asks ingress.1.space
    (MinTlsVersion.ofText (ingress.2.metadata.annotation Annotation.minTlsVersion))
    ingress.2.spec.tls) hb
  unfold addSecureGrants
  simp only
  generalize b.look _ = found at hlook ⊢
  obtain ⟨grants, b'⟩ := found
  refine hlook.congr ?_
  exact List.foldlRecOn (motive := fun b'' : Building => b''.lookups = b'.lookups) _ _ rfl
    fun _ h _ _ => h

theorem attachIngress_lookups (m : Metadata) (host : String) (route : Route) (b : Building) :
    (b.attachIngress m host route).lookups = b.lookups := by
  unfold attachIngress
  simp only
  split
  · split
    · rfl
    · rfl
  · split
    · rfl
    · rfl

/-- `b.addEntry cache entry` serves an entry of an ingress. -/
def addEntry (cache : Cache) (b : Building) (entry : (Identity × Ingress) × IngressEntry) : Building :=
  b.addIngressEntry cache entry.1.1.space entry.1.2.metadata entry.2

theorem addEntry_asked (b : Building) (entry : (Identity × Ingress) × IngressEntry)
    (hb : b.lookups.Sound cache) :
    Asked cache (entryRequest? entry).toList b (b.addEntry cache entry) := by
  unfold addEntry addIngressEntry entryRequest?
  cases entry.2.backend? entry.1.1.space with
  | none => exact .refl b
  | some named =>
    obtain ⟨service, selector⟩ := named
    have hlook := look_asked (lookupBackend_asks service selector none) hb
    simp only
    generalize b.look _ = found at hlook ⊢
    obtain ⟨backend, b'⟩ := found
    cases backend with
    | none => exact hlook
    | some backend => exact hlook.congr (attachIngress_lookups ..)

end Building

/-- The entries of all ingresses are served one after the other, when all certificates are given by
`grantAll`. -/
theorem addIngresses_eq (cache : Cache) :
    addIngresses cache = (ingressEntries cache).foldl (Building.addEntry cache) (grantAll cache) := by
  unfold addIngresses ingressEntries
  rw [List.foldl_flatMap]
  simp only [List.foldl_map]
  rfl

theorem grantAll_asked (cache : Cache) : Asked cache [] {} (grantAll cache) := by
  have hgrants := Asked.foldl (b := {}) Building.addSecureGrants_asked cache.ingresses.toList
    (.empty : Lookups.Sound cache {})
  rwa [List.flatMap_eq_nil_iff.mpr fun _ _ => rfl] at hgrants

theorem addIngresses_asked (cache : Cache) :
    Asked cache (ingressRequests cache) {} (addIngresses cache) := by
  have hgrants := grantAll_asked cache
  rw [addIngresses_eq, ingressRequests, List.filterMap_eq_flatMap_toList]
  exact hgrants.append (.foldl Building.addEntry_asked _ (hgrants.sound .empty))

/-- A build asks for its `portRequests`, which the cache alone decides. -/
theorem buildAll_asked [Pattern.Engine] (cache : Cache) : Asked cache (portRequests cache) {}
    (buildAll cache) := by
  obtain ⟨statuses, orphans, hsort⟩ := sortHosts_eq cache (addIngresses cache)
  have hsorted : Asked cache _ {} (sortHosts cache (addIngresses cache)) :=
    (addIngresses_asked cache).congr (by rw [hsort])
  exact hsorted.append (.foldl Building.addRoot_asked _ (sortHosts_sound cache))

end GatewayCompiler.Build
