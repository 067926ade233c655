import GatewayCompiler.Proofs.Cycles
import GatewayCompiler.Proofs.Delegation.Termination
import GatewayCompiler.Proofs.Determined

/-!
# What it means to be in order

An object is found in order only after all of its entries have been looked at, and a problem with
one of them would have been recorded before.  Since the first status of an object is final, a status
of this kind says that none of the entries has a problem of its own, at this visit or any other.

Two things are not among these problems.  The filters of an entry that delegates are never looked at.
And whether an entry delegates back to a host on the way depends on the way: a host that is in order
on one way may close a cycle on another, where its later entries are left out without a report.

## Main definitions

* `Resolves` — a reference to a filter is in order.
* `Served`, `Passes` — an entry is in order, however its host is entered.
* `InOrder` — an object is in order.
* `Honest` — only objects in order are found in order.

## Main statements

* `Walk.honest` — a walk keeps the statuses honest.
* `build_valid` — what the status of an object in order says about its visits.
* `crossing_valid` — a host in order of which a later visit leaves something out.
-/

namespace GatewayCompiler.Build

open Relation

section

variable {engine : Pattern.Engine} {cache : Cache}

/-! ### Entries that are served -/

/-- `Resolves cache scope space ref` says that a reference means a filter whose settings can be read
at `scope`. -/
def Resolves (cache : Cache) (scope : FilterScope) (space : String) (ref : FilterRef) : Prop :=
  ∃ filter, resolveFilter cache scope space ref = .ok filter

/-- There are no problems with filters exactly if all references `refs` resolve. -/
theorem resolveFilters_eq_nil_iff {scope : FilterScope} {space : String} {refs : List FilterRef} :
    (resolveFilters cache scope space refs).2 = [] ↔ ∀ ref ∈ refs, Resolves cache scope space ref := by
  unfold resolveFilters Resolves
  simp only [List.filterMap_eq_nil_iff, List.mem_map]
  constructor
  · intro hnone ref href
    cases hfound : resolveFilter cache scope space ref with
    | ok filter => exact ⟨filter, rfl⟩
    | error problem => simpa [hfound] using hnone _ ⟨ref, href, rfl⟩
  · rintro hall _ ⟨ref, href, rfl⟩
    obtain ⟨filter, hfilter⟩ := hall ref href
    rw [hfilter]

/-- `Served cache space spec` says that nothing of an entry is left out when it is served: it lists
a service, all of its filters and those of its services resolve, and every service gets a cluster,
whatever was looked up before and under all conditions of the way. -/
structure Served (cache : Cache) (space : String) (spec : RouteSpec) : Prop where
  /-- There is a service. -/
  listed : spec.services ≠ []
  /-- The filters of the entry resolve. -/
  filters : ∀ ref ∈ spec.filters, Resolves cache .route space ref
  /-- The filters of the services resolve. -/
  clusterFilters : ∀ s ∈ spec.services, ∀ ref ∈ s.filters, Resolves cache .cluster space ref
  /-- There is a route, with one cluster for each service, and no problem. -/
  built : ∀ conditions result, Yields cache (buildRoute cache space spec conditions) result →
    ∃ route, result = (some route, []) ∧
      List.Forall₂ (Builds cache space) spec.services route.clusters

/-- If there is no problem with some services, each of them has got a cluster, and its filters
resolve. -/
theorem buildClusters_flawless (space : String) (services : List ServiceSpec) :
    Answers cache (buildClusters cache space services) fun result => result.2 = [] →
      (∀ s ∈ services, ∀ ref ∈ s.filters, Resolves cache .cluster space ref) ∧
        List.Forall₂ (Builds cache space) services result.1 := by
  -- over the services: a problem of the first is one of the whole list
  induction services with
  | nil => exact .pure fun _ => ⟨by simp, .nil⟩
  | cons s rest ih =>
    rw [buildClusters]
    refine (buildCluster_answers space s).yields.bind fun built hbuilt => ?_
    have hmade := hbuilt.holds (buildCluster_answers space s)
    refine ih.bind fun result hresult => ?_
    cases built with
    | error problem => exact .pure fun hnone => absurd hnone (List.cons_ne_nil _ _)
    | ok made =>
      obtain ⟨cluster, found⟩ := made
      refine .pure fun hnone => ?_
      obtain ⟨hfound, hrest⟩ := List.append_eq_nil_iff.mp hnone
      obtain ⟨hothers, hclusters⟩ := hresult hrest
      have hproblems : found = (resolveFilters cache .cluster space s.filters).2 :=
        congrArg Prod.snd (hmade cluster found rfl).filters
      rw [hproblems, resolveFilters_eq_nil_iff] at hfound
      exact ⟨List.forall_mem_cons.mpr ⟨hfound, hothers⟩, .cons ⟨found, hbuilt⟩ hclusters⟩

/-- If there is no problem with an entry, nothing of it is left out. -/
theorem buildRoute_flawless (space : String) (spec : RouteSpec) (conditions : List Condition) :
    Answers cache (buildRoute cache space spec conditions) fun result => result.2 = [] →
      spec.services ≠ [] ∧ (∀ ref ∈ spec.filters, Resolves cache .route space ref) ∧
      (∀ s ∈ spec.services, ∀ ref ∈ s.filters, Resolves cache .cluster space ref) ∧
      ∃ route, result = (some route, []) ∧
        List.Forall₂ (Builds cache space) spec.services route.clusters := by
  unfold buildRoute
  split
  · exact .pure fun hnone => absurd hnone (List.cons_ne_nil _ _)
  · next hlisted =>
    simp only
    refine (buildClusters_flawless space spec.services).bind fun result hresult => .pure ?_
    intro hnone
    obtain ⟨hfilters, hproblems⟩ := List.append_eq_nil_iff.mp hnone
    obtain ⟨hclusterFilters, hclusters⟩ := hresult hproblems
    obtain ⟨clusters, problems⟩ := result
    -- a service is listed, so that there is a cluster
    have hsome : clusters ≠ [] := by
      rintro rfl
      exact hlisted (List.forall₂_nil_right_iff.mp hclusters)
    refine ⟨hlisted, resolveFilters_eq_nil_iff.mp hfilters, hclusterFilters,
      routeOf spec conditions (resolveFilters cache .route space spec.filters).1 clusters, ?_,
      hclusters⟩
    change problems = [] at hproblems
    simp [hfilters, hproblems, List.isEmpty_iff, hsome]

/-- The problems with an entry do not depend on the `conditions` of the way. -/
theorem buildRoute_problems_eq (space : String) (spec : RouteSpec) (conditions other : List Condition)
    (known : Lookups) : ((buildRoute cache space spec conditions).run known).1.2
      = ((buildRoute cache space spec other).run known).1.2 := by
  unfold buildRoute
  split
  · rfl
  · rfl

/-- When no service lists a number twice, an entry that is served once without a problem is served
without one at all times: then what is remembered does not decide anything. -/
theorem served_of_flawless (distinct : cache.PortsDistinct) {space : String} {spec : RouteSpec}
    {conditions : List Condition} {result : Option Route × List Problem}
    (h : Yields cache (buildRoute cache space spec conditions) result) (hnone : result.2 = []) :
    Served cache space spec := by
  obtain ⟨hlisted, hfilters, hclusterFilters, -⟩ :=
    h.holds (buildRoute_flawless space spec conditions) hnone
  refine ⟨hlisted, hfilters, hclusterFilters, fun other result' h' => ?_⟩
  obtain ⟨answer, hanswer⟩ := buildRoute_determined distinct space spec conditions
  have hnone' : result'.2 = [] := by
    obtain ⟨known, hknown, rfl⟩ := h'
    rw [buildRoute_problems_eq space spec other conditions, (hanswer known hknown).1,
      ← h.holds hanswer, hnone]
  exact (h'.holds (buildRoute_flawless space spec other) hnone').2.2.2

/-! ### Entries that pass -/

/-- `Passes cache i route` says that an entry of the host `i` passes the checks that do not depend
on the way to its host. -/
structure Passes [Pattern.Engine] (cache : Cache) (i : Identity) (route : RouteSpec) : Prop where
  /-- Its conditions are well-formed, and it does not have both services and a delegate. -/
  checked : checkRoute route = .ok ()
  /-- It does not delegate under a pattern. -/
  noRegex : route.delegate.isSome → ¬ hasRegex route.conditions
  /-- It does not delegate to a root. -/
  noRoot : ∀ (d : Delegate) (child : GatewayHost), route.delegate = some d →
    cache.gatewayHosts.find? (d.target i.space) = some child → child.virtualHost = none

/-- An entry that does not stop its host `Passes`. -/
theorem passes_of_not_stops {f : RouteFrame} {route : RouteSpec}
    (h : ¬ Stops cache.gatewayHosts f route) : Passes cache f.owner route where
  checked := by
    cases hcheck : checkRoute route with
    | ok _ => rfl
    | error problem => exact absurd (.of_checkRoute hcheck) h
  noRegex := fun hdelegate hregex => h (.regex hdelegate hregex)
  noRoot := by
    intro d child hd hfound
    by_contra hroot
    exact h (.root d child hd hfound (Option.isSome_iff_ne_none.mpr hroot))

/-- An entry that passes can only stop its host by closing a cycle. -/
theorem Passes.closes {f : RouteFrame} {route : RouteSpec} (h : Passes cache f.owner route)
    (stops : Stops cache.gatewayHosts f route) :
    ∃ way, Closes cache.gatewayHosts f route way := by
  by_contra hcloses
  refine not_stops h.checked h.noRegex (fun d child hd hfound => ⟨?_, h.noRoot d child hd hfound⟩)
    stops
  exact fun hseen => hcloses ⟨_, d, child, hd, hfound, hseen, rfl⟩

/-! ### Objects in order -/

/-- `HostInOrder cache i host` says that a host is in order. -/
structure HostInOrder [Pattern.Engine] (cache : Cache) (i : Identity) (host : GatewayHost) :
    Prop where
  /-- The filters of a root resolve. -/
  filters : ∀ v, host.virtualHost = some v → ∀ ref ∈ v.filters, Resolves cache .virtualHost i.space ref
  /-- All entries pass. -/
  passes : ∀ route ∈ host.routes, Passes cache i route
  /-- All entries without a delegate are served. -/
  served : ∀ route ∈ host.routes, route.delegate = none → Served cache i.space route
  /-- On some way the host is entered, and no entry stops it. -/
  whole : ∃ root g, Entered cache root g ∧ g.owner = i ∧ Completes cache.gatewayHosts g

/-- `MergedInOrder cache i route` says that an entry of a service route is in order. -/
structure MergedInOrder [Pattern.Engine] (cache : Cache) (i : Identity) (route : RouteSpec) :
    Prop where
  /-- Its conditions are well-formed. -/
  conditions : checkConditions route.conditions = .ok ()
  /-- It does not delegate. -/
  own : route.delegate = none
  /-- It is served. -/
  served : Served cache i.space route

/-- `InOrder cache object` says that an object is in order, a host or a service route. -/
inductive InOrder [Pattern.Engine] (cache : Cache) : ObjectRef → Prop
  /-- It is a host. -/
  | host {i : Identity} {host : GatewayHost} (found : cache.gatewayHosts.find? i = some host)
      (order : HostInOrder cache i host) : InOrder cache (hostRef i)
  /-- It is a service route. -/
  | serviceRoute {i : Identity} {r : ServiceRoute} (found : cache.serviceRoutes.find? i = some r)
      (order : ∀ route ∈ r.routes, MergedInOrder cache i route) :
      InOrder cache ⟨i, .serviceRoute⟩

/-- `Honest cache statuses` says that only objects in order are found in order. -/
def Honest [Pattern.Engine] (cache : Cache) (statuses : Ledger Status) : Prop :=
  ∀ object status, OrderedMap.find? statuses object = some status →
    status.outcome.kind = .valid → InOrder cache object

/-- Statuses stay honest, if every step that finds an object in order is right. -/
theorem Honest.follow {b b' : Building} {steps : List Step} (honest : Honest cache b.statuses)
    (h : Follows cache steps b b')
    (hvalid : ∀ s ∈ steps, ∀ object outcome, s.Records object outcome → outcome.kind = .valid →
      InOrder cache object) : Honest cache b'.statuses := by
  intro object status hfind hkind
  rcases h.origin object status hfind with hold | ⟨s, hs, hrecords⟩
  · exact honest object status hold hkind
  · exact hvalid s hs object status.outcome hrecords hkind

/-- Statuses stay honest when an object that has one already is found in order, since the first one
counts. -/
theorem Honest.settle {b : Building} {object : ObjectRef} {outcome : Outcome}
    (honest : Honest cache b.statuses)
    (h : b.statuses.contains object ∨ InOrder cache object) (host : String) :
    Honest cache (b.settle object outcome host).statuses := by
  -- either the object has its outcome already, and keeps it, or the new one is in order
  rcases h with hthere | horder
  · intro other status hfind hkind
    obtain ⟨old, hold⟩ := OrderedMap.contains_eq_true_iff.mp hthere
    refine honest other status ?_ hkind
    by_cases heq : other = object
    · subst heq
      rw [Building.settle, Ledger.find?_record_self, hold] at hfind
      rw [hold]
      exact hfind
    · rwa [Building.settle, Ledger.find?_record_of_ne _ _ heq] at hfind
  · refine honest.follow (@Building.settle_follows cache object outcome host b) ?_
    intro s hs other recorded hrecords _
    rw [List.mem_singleton.mp hs] at hrecords
    cases hrecords
    exact horder

/-- A step that finds fault with objects does not find any in order. -/
theorem Honest.reject {b b' : Building} {steps : List Step} (honest : Honest cache b.statuses)
    (h : Follows cache steps b b')
    (hfaults : ∀ s ∈ steps, (∃ target, s = .reach target) ∨
      ∃ object problem, s = .settle object (.invalid problem)) : Honest cache b'.statuses := by
  refine honest.follow h fun s hs object outcome hrecords hkind => ?_
  rcases hfaults s hs with ⟨target, rfl⟩ | ⟨object, problem, rfl⟩
  · cases hrecords
  · cases hrecords
    cases hkind

/-! ### Walks -/

/-- A route that is served has its problems recorded, unless there are none, and then it is
`Served`. -/
theorem serve_honest (distinct : cache.PortsDistinct) {b : Building} (hb : b.lookups.Sound cache)
    (honest : Honest cache b.statuses) (place : Place) (object : ObjectRef) (spec : RouteSpec)
    (conditions : List Condition) :
    Honest cache (b.serve cache place object spec conditions).statuses ∧
      ((b.serve cache place object spec conditions).statuses.contains object ∨
        Served cache object.identity.space spec) := by
  refine ⟨honest.follow (Building.serve_follows place object spec conditions b) ?_, ?_⟩
  · intro s hs other outcome hrecords hkind
    rw [List.mem_singleton.mp hs] at hrecords
    cases hrecords
    cases hkind
  · have hyields : Yields cache (buildRoute cache object.identity.space spec conditions)
        (b.look (buildRoute cache object.identity.space spec conditions)).1 := ⟨_, hb, rfl⟩
    unfold Building.serve
    generalize b.look (buildRoute cache object.identity.space spec conditions) = found at hyields ⊢
    obtain ⟨⟨route, problems⟩, b'⟩ := found
    -- without a problem the route is served as it stands, and else the object is reported
    cases problems with
    | nil => exact .inr (served_of_flawless distinct hyields rfl)
    | cons problem rest =>
      refine .inl ?_
      have hreport := @Building.report_follows cache object (problem :: rest) place.host b'
      have hthere := hreport.settled _ List.mem_cons_self object rfl
      cases route with
      | none => exact hthere
      | some route =>
        exact (@Building.attach_follows cache place route spec.permitInsecure _).contains hthere

/-- `Clean cache i earlier` says that so far nothing is wrong with a host: its own filters resolve,
and the entries that are done are served. -/
structure Clean (cache : Cache) (i : Identity) (earlier : List RouteSpec) : Prop where
  /-- The filters of a root resolve. -/
  filters : ∀ host v, cache.gatewayHosts.find? i = some host → host.virtualHost = some v →
    ∀ ref ∈ v.filters, Resolves cache .virtualHost i.space ref
  /-- The entries are served. -/
  served : ∀ route ∈ earlier, route.delegate = none → Served cache i.space route

theorem Clean.append {i : Identity} {earlier : List RouteSpec} {route : RouteSpec}
    (h : Clean cache i earlier) (hroute : route.delegate = none → Served cache i.space route) :
    Clean cache i (earlier ++ [route]) where
  filters := h.filters
  served := by
    intro r hr hown
    rcases List.mem_append.mp hr with hr | hr
    · exact h.served r hr hown
    · rw [List.mem_singleton.mp hr] at hown ⊢
      exact hroute hown

/-- A walk keeps the statuses honest.  Whatever is wrong with an entry of a host has given the host
a status by the time that the host is found in order. -/
theorem Walk.honest (distinct : cache.PortsDistinct) {place : Place} {root : Identity}
    {finish : List Step} {f : RouteFrame} {earlier rest : List RouteSpec} {steps : List Step}
    (h : Walk cache.gatewayHosts finish f earlier rest steps) (entered : Entered cache root f)
    (hfinish : ∀ b : Building, b.lookups.Sound cache → Honest cache b.statuses →
      Honest cache (b.takeAll cache place finish).statuses)
    {b : Building} (hb : b.lookups.Sound cache) (honest : Honest cache b.statuses)
    (pending : b.statuses.contains (hostRef f.owner) ∨ Clean cache f.owner earlier) :
    Honest cache (b.takeAll cache place steps).statuses := by
  induction h generalizing b with
  | @done finish f earlier split ok =>
    rw [Building.takeAll_append]
    refine (hfinish b hb honest).settle ?_ place.host
    rcases pending with hthere | hclean
    · exact .inl ((Building.takeAll_follows place finish b).contains hthere)
    · obtain ⟨host, hfound, hroutes⟩ := entered.routes_eq
      rw [split] at hroutes
      refine .inr (.host hfound ⟨fun v hv => hclean.filters host v hfound hv, fun route hr => ?_,
        fun route hr => ?_, root, f, entered, rfl, ok⟩)
      · rw [← hroutes, ← split] at hr
        exact passes_of_not_stops (ok route hr)
      · rw [← hroutes] at hr
        exact hclean.served route hr
  | @stop finish f earlier route rest problem leads split stops known closes =>
    refine honest.reject (Building.takeAll_follows place _ b) fun s hs => ?_
    rcases List.mem_append.mp hs with hs | hs
    · obtain ⟨target, -, rfl⟩ := List.mem_map.mp hs
      exact .inl ⟨target, rfl⟩
    · rw [List.mem_singleton.mp hs]
      exact .inr ⟨_, problem, rfl⟩
  | @serve finish f earlier route rest steps split runs own next ih =>
    have hfollows := @Building.serve_follows cache place (hostRef f.owner) route
      (f.inherited ++ route.conditions) b
    obtain ⟨hserved, hnext⟩ := serve_honest distinct hb honest place (hostRef f.owner) route
      (f.inherited ++ route.conditions)
    refine ih entered hfinish (hfollows.lookups hb) hserved ?_
    rcases pending with hthere | hclean
    · exact .inl (hfollows.contains hthere)
    · exact hnext.imp_right fun hroute => hclean.append fun _ => hroute
  | @skip finish f earlier route rest steps d split runs delegate missing next ih =>
    refine ih entered hfinish hb honest (pending.imp_right fun hclean => hclean.append ?_)
    rw [delegate]
    rintro ⟨⟩
  | @enter finish f earlier route rest inner steps d child split runs delegate found below next
      ihBelow ihNext =>
    have hdel := Delegates.intro runs delegate found
    change Honest cache ((b.reach (d.target f.owner.space)).takeAll cache place
      (inner ++ steps)).statuses
    rw [Building.takeAll_append]
    have hsound : (b.reach (d.target f.owner.space)).lookups.Sound cache := hb
    -- a delegate is no root, so that it has no filters of its own
    have hchild : Clean cache (d.target f.owner.space) [] := by
      refine ⟨fun host v hfound hv => ?_, by simp⟩
      obtain ⟨host', hfound', hnone⟩ := hdel.find?_owner
      obtain rfl : host = host' := Option.some.inj (hfound.symm.trans hfound')
      rw [hnone] at hv
      cases hv
    have hinner := ihBelow (entered.tail hdel) (fun b _ honest => honest) hsound honest
      (.inr hchild)
    have hfollows := @Building.takeAll_follows cache place inner
      (b.reach (d.target f.owner.space))
    refine ihNext entered hfinish (hfollows.lookups hsound) hinner ?_
    rcases pending with hthere | hclean
    · exact .inl (hfollows.contains hthere)
    · refine .inr (hclean.append ?_)
      rw [delegate]
      rintro ⟨⟩

/-- The steps for a service route keep the statuses honest. -/
theorem serviceRouteSteps_honest (distinct : cache.PortsDistinct) {place : Place} {i : Identity}
    {r : ServiceRoute} (found : cache.serviceRoutes.find? i = some r) {earlier rest : List RouteSpec}
    (split : r.routes = earlier ++ rest) {b : Building} (hb : b.lookups.Sound cache)
    (honest : Honest cache b.statuses)
    (pending : b.statuses.contains ⟨i, .serviceRoute⟩ ∨
      ∀ route ∈ earlier, MergedInOrder cache i route) :
    Honest cache (b.takeAll cache place (serviceRouteSteps i rest)).statuses := by
  -- over the routes behind those that are served; a fault ends the walk and is recorded
  induction rest generalizing earlier b with
  | nil =>
    rw [List.append_nil] at split
    exact honest.settle (pending.imp_right fun hall => .serviceRoute found (split ▸ hall)) place.host
  | cons route rest ih =>
    have hfault : ∀ problem, Honest cache (b.takeAll cache place
        [.settle ⟨i, .serviceRoute⟩ (.invalid problem)]).statuses := by
      intro problem
      refine honest.reject (Building.takeAll_follows place _ b) fun s hs => ?_
      rw [List.mem_singleton.mp hs]
      exact .inr ⟨_, problem, rfl⟩
    rw [serviceRouteSteps]
    cases hcheck : checkConditions route.conditions with
    | error e => exact hfault (.badConditions e)
    | ok _ =>
      by_cases hdelegate : route.delegate.isSome
      · simp only [hdelegate, if_true]
        exact hfault .serviceRouteDelegates
      · simp only [hdelegate, Bool.false_eq_true, if_false]
        have hfollows := @Building.serve_follows cache place ⟨i, .serviceRoute⟩ route
          route.conditions b
        obtain ⟨hserved, hnext⟩ :=
          serve_honest distinct hb honest place ⟨i, .serviceRoute⟩ route route.conditions
        have hsplit : r.routes = (earlier ++ [route]) ++ rest := by simp [split]
        refine ih hsplit (hfollows.lookups hb) hserved ?_
        rcases pending with hthere | hall
        · exact .inl (hfollows.contains hthere)
        · refine hnext.imp_right fun hroute r' hr' => ?_
          rcases List.mem_append.mp hr' with hr' | hr'
          · exact hall r' hr'
          · rw [List.mem_singleton.mp hr']
            exact ⟨hcheck, by simpa using hdelegate, hroute⟩

/-- The steps for the service routes of a domain name keep the statuses honest. -/
theorem mergeSteps_honest (distinct : cache.PortsDistinct) (place : Place) (fqdn : String)
    (b : Building) (hb : b.lookups.Sound cache) (honest : Honest cache b.statuses) :
    Honest cache (b.takeAll cache place (mergeSteps cache.serviceRoutes fqdn)).statuses := by
  have hfound : ∀ p ∈ cache.serviceRoutes.toList.filter (fun p => p.2.domain = fqdn),
      cache.serviceRoutes.find? p.1 = some p.2 := fun p hp =>
    OrderedMap.find?_eq_some_of_mem (List.mem_filter.mp hp).1
  unfold mergeSteps
  generalize cache.serviceRoutes.toList.filter (fun p => p.2.domain = fqdn) = merged at hfound
  -- the first service route keeps the ledger honest, and the others start from there
  induction merged generalizing b with
  | nil => exact honest
  | cons p rest ih =>
    rw [List.flatMap_cons, Building.takeAll_append]
    have hfirst : Honest cache (b.takeAll cache place
        (.merge p.1 :: serviceRouteSteps p.1 p.2.routes)).statuses :=
      serviceRouteSteps_honest distinct (hfound p List.mem_cons_self) (List.nil_append _).symm
        (b := b.merge p.1) hb honest (.inr (by simp))
    have hfollows := @Building.takeAll_follows cache place
      (.merge p.1 :: serviceRouteSteps p.1 p.2.routes) b
    exact ih _ (hfollows.lookups hb) hfirst fun q hq => hfound q (List.mem_cons_of_mem _ hq)

/-! ### Builds -/

/-- A root keeps the statuses honest, whether it is served or refused. -/
theorem addRoot_honest (distinct : cache.PortsDistinct) {b : Building} (hb : b.lookups.Sound cache)
    (honest : Honest cache b.statuses) {root : Identity} {host : GatewayHost}
    (found : cache.gatewayHosts.find? root = some host) (hforwards : host.tcpProxy = none) :
    Honest cache (b.addRoot cache (root, host)).statuses := by
  by_cases hserved : ∃ v mode, Accepted cache root host v mode
  · obtain ⟨v, mode, accepted⟩ := hserved
    have hserves : mode.forwards host = false := by
      unfold TlsMode.forwards
      cases mode <;> simp [hforwards]
    have hproblems : filterProblems cache root host v mode
        = (resolveFilters cache .virtualHost root.space v.filters).2 := by
      unfold filterProblems
      cases mode <;> simp [hforwards]
    have entered : Entered cache root (.ofRoot root host) :=
      ⟨host, v, mode, accepted, hserves, .refl⟩
    have hlooked := (Building.look_follows (@checkRoot_answers cache root v) b).lookups hb
    have hopen := @Building.openRoot_follows cache root host v mode (b.look (checkRoot cache root v).run).2
    have hopened : Honest cache ((b.look (checkRoot cache root v).run).2.openRoot cache root host v
        mode).statuses := by
      refine Honest.reject (b := (b.look (checkRoot cache root v).run).2) honest hopen fun s hs => ?_
      obtain ⟨problem, -, rfl⟩ := List.mem_map.mp hs
      exact .inr ⟨_, problem, rfl⟩
    rw [Building.addRoot_eq accepted hb, walkSteps, hserves]
    refine (walk_serveSteps root host v.domain).honest distinct entered
      (fun b hb honest => mergeSteps_honest distinct _ v.domain b hb honest) (hopen.lookups hlooked)
      hopened ?_
    -- either the filters of the root resolve, or one of them has been reported
    cases hlist : (resolveFilters cache .virtualHost root.space v.filters).2 with
    | nil =>
      refine .inr ⟨fun host' v' hfound' hv' => ?_, by simp⟩
      obtain rfl : host = host' := Option.some.inj (found.symm.trans hfound')
      obtain rfl : v = v' := Option.some.inj (accepted.virtualHost.symm.trans hv')
      exact resolveFilters_eq_nil_iff.mp hlist
    | cons problem rest =>
      rw [hproblems, hlist] at hopen
      exact .inl (hopen.settled _ List.mem_cons_self _ rfl)
  · refine honest.reject (Building.addRoot_follows b (root, host) hb) fun s hs => ?_
    rcases mem_rootSteps found hs with ⟨-, problem, rfl⟩ | ⟨v, mode, accepted, -⟩
    · exact .inr ⟨_, problem, rfl⟩
    · exact absurd ⟨v, mode, accepted⟩ hserved

/-- When no host forwards connections, the statuses of a build are `Honest`. -/
theorem buildAll_honest (distinct : cache.PortsDistinct)
    (noForwarding : ∀ i host, cache.gatewayHosts.find? i = some host → host.tcpProxy = none) :
    Honest cache (buildAll cache).statuses := by
  -- up to the first root only roots that share a name are recorded
  have hstart : Honest cache (holdOrphans cache (addIngresses cache)).statuses := by
    intro object status hfind
    rw [(holdOrphans_untouched cache).find?_eq_none] at hfind
    cases hfind
  have hsort : Honest cache (sortHosts cache (addIngresses cache)).statuses := by
    refine hstart.reject (Follows.foldl (fun b root _ => @Building.reportSharers_follows cache b root)
      cache.gatewayHosts.toList _ (holdOrphans_untouched cache).lookups) fun s hs => ?_
    obtain ⟨⟨root, host⟩, -, hs⟩ := List.mem_flatMap.mp hs
    obtain ⟨-, problem, rfl⟩ := mem_sharerSteps hs
    exact .inr ⟨_, problem, rfl⟩
  unfold buildAll
  refine (List.foldlRecOn (motive := fun b : Building => b.lookups.Sound cache ∧
    Honest cache b.statuses) _ _ ⟨sortHosts_sound cache, hsort⟩ ?_).2
  rintro b ⟨hsound, honest⟩ ⟨root, host⟩ hmem
  have hfound := OrderedMap.find?_eq_some_of_mem hmem
  exact ⟨(Building.addRoot_follows b (root, host) hsound).lookups hsound,
    addRoot_honest distinct hsound honest hfound (noForwarding root host hfound)⟩

/-- `VisitInOrder cache g` says that a visit of a host is in order: no entry has a problem of its
own, and every entry is reached, unless an entry up to it delegates back to a host on the way. -/
structure VisitInOrder [Pattern.Engine] (cache : Cache) (g : RouteFrame) : Prop where
  /-- All entries pass. -/
  passes : ∀ route ∈ g.routes, Passes cache g.owner route
  /-- All entries without a delegate are served. -/
  served : ∀ route ∈ g.routes, route.delegate = none → Served cache g.owner.space route
  /-- Only an entry that closes a cycle ends the visit. -/
  runs : ∀ earlier route, earlier ++ [route] <+: g.routes →
    (∀ r ∈ earlier ++ [route], ∀ way, ¬ Closes cache.gatewayHosts g r way) →
    Runs cache.gatewayHosts g earlier route

/-- The visits of a host in order are in order, on every way on which it is entered. -/
theorem HostInOrder.visit {i : Identity} {host : GatewayHost} (h : HostInOrder cache i host)
    (found : cache.gatewayHosts.find? i = some host) {root : Identity} {g : RouteFrame}
    (entered : Entered cache root g) (howner : g.owner = i) : VisitInOrder cache g := by
  obtain ⟨host', hfound', hroutes⟩ := entered.routes_eq
  rw [howner, found] at hfound'
  cases hfound'
  have hpasses : ∀ route ∈ g.routes, Passes cache g.owner route := by
    rw [hroutes, howner]
    exact h.passes
  refine ⟨hpasses, by rw [hroutes, howner]; exact h.served, fun earlier route hplace hopen => ?_⟩
  refine ⟨hplace, fun r hr hstops => ?_⟩
  obtain ⟨way, hcloses⟩ := (hpasses r (hplace.subset hr)).closes hstops
  exact hopen r hr way hcloses

/-- A service route in order has all of its routes served. -/
theorem serviceRouteSteps_of_inOrder {i : Identity} {routes : List RouteSpec}
    (h : ∀ route ∈ routes, MergedInOrder cache i route) :
    serviceRouteSteps i routes =
      routes.map (fun route => .serve ⟨i, .serviceRoute⟩ route route.conditions)
        ++ [.settle ⟨i, .serviceRoute⟩ (.valid .serviceRoute)] := by
  induction routes with
  | nil => rfl
  | cons route rest ih =>
    obtain ⟨hconditions, hown, -⟩ := h route List.mem_cons_self
    rw [serviceRouteSteps, hconditions, ih fun r hr => h r (List.mem_cons_of_mem _ hr)]
    simp [hown]

/-- A service route that is found in order is merged by a root that is `Finished`. -/
theorem finished_of_valid {i : Identity} {r : ServiceRoute} {status : Status}
    (found : cache.serviceRoutes.find? i = some r)
    (hfind : (Graph.build cache).statuses.find? ⟨i, .serviceRoute⟩ = some status)
    (hkind : status.outcome.kind = .valid) : Finished cache r.domain := by
  by_contra hopen
  have hleft : (buildAll cache).merged.contains i = false := by
    rw [Bool.eq_false_iff]
    exact fun hmerged => hopen ((merged_buildAll found).mp hmerged)
  obtain ⟨other, hother, horphan⟩ := isOrphan_build_iff.mpr (.serviceRoute found hleft)
  rw [hfind] at hother
  cases hother
  rw [hkind] at horphan
  cases horphan

/-- **What is in order when it is found in order.** Let no host forward connections and no service
list a number twice, and let an object be found in order.  If it is a host, then its own filters
resolve, it is entered on some way on which no entry stops it, and on every way on which it is
entered its entries are in order and all of them are reached, as far as none of them delegates back
to a host on the way.  If it is a service route, then a root merges it, and all of its entries are
in order and served. -/
theorem build_valid (distinct : cache.PortsDistinct)
    (noForwarding : ∀ i host, cache.gatewayHosts.find? i = some host → host.tcpProxy = none)
    {object : ObjectRef} {status : Status}
    (hfind : (Graph.build cache).statuses.find? object = some status)
    (hkind : status.outcome.kind = .valid) :
    (∃ i host, object = hostRef i ∧ cache.gatewayHosts.find? i = some host ∧
      (∀ v, host.virtualHost = some v →
        ∀ ref ∈ v.filters, Resolves cache .virtualHost i.space ref) ∧
      (∃ root g, Entered cache root g ∧ g.owner = i ∧ Completes cache.gatewayHosts g) ∧
      ∀ root g, Entered cache root g → g.owner = i → VisitInOrder cache g) ∨
    ∃ i r, object = ⟨i, .serviceRoute⟩ ∧ cache.serviceRoutes.find? i = some r ∧
      Finished cache r.domain ∧ (∀ route ∈ r.routes, MergedInOrder cache i route) ∧
      serviceRouteSteps i r.routes =
        r.routes.map (fun route => .serve ⟨i, .serviceRoute⟩ route route.conditions)
          ++ [.settle ⟨i, .serviceRoute⟩ (.valid .serviceRoute)] := by
  have hbuild := find?_buildAll hfind (by rw [hkind]; decide)
  cases buildAll_honest distinct noForwarding object status hbuild hkind with
  | @host i host found order =>
    exact .inl ⟨i, host, rfl, found, order.filters, order.whole,
      fun _ _ entered howner => order.visit found entered howner⟩
  | @serviceRoute i r found order =>
    exact .inr ⟨i, r, rfl, found, finished_of_valid found hfind hkind, order,
      serviceRouteSteps_of_inOrder order⟩

end

/-! ### A host that closes a cycle on its second way -/

/-- An entry that leads on to `users`.  It names a filter that is not there. -/
def leadingEntry : RouteSpec :=
  { apiRoute with delegate := some ⟨"users", none⟩, filters := [⟨"gone", none⟩] }

/-- An entry for a service. -/
def servingEntry : RouteSpec :=
  { apiRoute with
    conditions := [⟨some "/own", none, none⟩]
    services := [⟨"api", 80, 1, none, none, none, none, none, []⟩] }

/-- A host with both entries, `leadingEntry` and `servingEntry`. -/
def crossingHost : GatewayHost :=
  { leadingHost "api" ⟨"users", none⟩ with routes := [leadingEntry, servingEntry] }

/-- A root that leads to `users` first. -/
def storeHost : GatewayHost := { siteHost with
  metadata := { name := some "store", space := some "default" }
  virtualHost := some ⟨"store.test", none, []⟩
  routes := [{ apiRoute with delegate := some ⟨"users", some "team"⟩ }] }

/-- A cache in which two hosts delegate to each other, and two roots lead to one of them each. -/
def crossingCache : Cache where
  gatewayHosts := .ofList [(⟨"default", "site"⟩, siteHost), (⟨"default", "store"⟩, storeHost),
    (⟨"team", "api"⟩, crossingHost), (⟨"team", "users"⟩, leadingHost "users" ⟨"api", none⟩)]
  services := siteCache.services

theorem crossing_hypotheses : crossingCache.PortsDistinct ∧
    ∀ i host, crossingCache.gatewayHosts.find? i = some host → host.tcpProxy = none := by
  constructor
  · refine Cache.portsDistinct_of_forall ?_
    rintro p (_ | ⟨_, ⟨⟩⟩)
    exact List.nodup_singleton _
  · intro i host hfind
    have hall : ∀ p ∈ crossingCache.gatewayHosts.toList, p.2.tcpProxy = none := by
      rintro p (_ | ⟨_, _ | ⟨_, _ | ⟨_, _ | ⟨_, ⟨⟩⟩⟩⟩⟩)
      · rfl
      · rfl
      · rfl
      · rfl
    exact hall _ (OrderedMap.mem_of_find?_eq_some hfind)

/-- The walk of the first root: `users` closes a cycle, and `api` is in order. -/
theorem crossing_serveSteps :
    serveSteps crossingCache ⟨"default", "site"⟩ siteHost "site.test" =
      [.reach ⟨"team", "api"⟩, .reach ⟨"team", "users"⟩, .reach ⟨"team", "api"⟩,
        .reject ⟨"team", "users"⟩ (.routeCycle [⟨"default", "site"⟩, ⟨"team", "api"⟩,
          ⟨"team", "users"⟩, ⟨"team", "api"⟩]),
        .serve (hostRef ⟨"team", "api"⟩) servingEntry (apiRoute.conditions ++ servingEntry.conditions),
        .accept ⟨"team", "api"⟩, .accept ⟨"default", "site"⟩] := by
  have hroot : Simple crossingCache.gatewayHosts [⟨"default", "site"⟩] := by decide
  have hdeep : (unvisited crossingCache.gatewayHosts [⟨"default", "site"⟩]).length < 4 := by decide
  -- the guarded walk can be computed
  have heq := guardedRouteSteps_eq hroot hdeep [] ⟨"default", "site"⟩ [] siteHost.routes
  exact (Option.some.inj heq).symm

/-- The host `api` ends in order. -/
theorem crossing_status :
    (Graph.build crossingCache).statuses.find? (hostRef ⟨"team", "api"⟩)
      = some ⟨.valid .gatewayHost, "site.test"⟩ := by
  have accepted : Accepted crossingCache ⟨"default", "site"⟩ siteHost ⟨"site.test", none, []⟩ .off :=
    ⟨rfl, rfl, rfl, rfl⟩
  have hsorted := sortHosts_sound crossingCache
  -- the first root gives it this status, and later ones keep it
  have hfirst : ((sortHosts crossingCache (addIngresses crossingCache)).addRoot crossingCache
      (⟨"default", "site"⟩, siteHost)).statuses.find? (hostRef ⟨"team", "api"⟩)
      = some ⟨.valid .gatewayHost, "site.test"⟩ := by
    rw [Building.addRoot_eq accepted hsorted]
    change ((Building.takeAll crossingCache _ (serveSteps crossingCache ⟨"default", "site"⟩ siteHost
      "site.test") _).statuses.find? _) = _
    rw [crossing_serveSteps]
    rfl
  have hlist : crossingCache.gatewayHosts.toList
      = (⟨"default", "site"⟩, siteHost) :: crossingCache.gatewayHosts.toList.tail := rfl
  have hrest := Follows.foldl (fun b root hb => @Building.addRoot_follows crossingCache _ b root hb)
    crossingCache.gatewayHosts.toList.tail _
    ((Building.addRoot_follows (sortHosts crossingCache (addIngresses crossingCache))
      (⟨"default", "site"⟩, siteHost) hsorted).lookups hsorted)
  have hall : (buildAll crossingCache).statuses.find? (hostRef ⟨"team", "api"⟩)
      = some ⟨.valid .gatewayHost, "site.test"⟩ := by
    rw [buildAll, hlist, List.foldl_cons]
    exact hrest.kept _ _ hfirst
  have hsound := (buildAll_follows (holdOrphans_untouched crossingCache).lookups).lookups
    (holdOrphans_untouched crossingCache).lookups
  exact (recordOrphans_follows (buildAll crossingCache) hsound).kept _ _ hall

/-- How the second root enters `users`. -/
def usersFrame : RouteFrame :=
  (RouteFrame.ofRoot ⟨"default", "store"⟩ storeHost).through []
    { apiRoute with delegate := some ⟨"users", some "team"⟩ } ⟨"team", "users"⟩
    (leadingHost "users" ⟨"api", none⟩)

/-- How the second root goes on to `api` from `usersFrame`. -/
def crossingFrame : RouteFrame :=
  usersFrame.through [] { apiRoute with delegate := some ⟨"api", none⟩ } ⟨"team", "api"⟩ crossingHost

theorem crossingFrame_entered : Entered crossingCache ⟨"default", "store"⟩ crossingFrame := by
  have accepted : Accepted crossingCache ⟨"default", "store"⟩ storeHost ⟨"store.test", none, []⟩
      .off := ⟨rfl, rfl, rfl, rfl⟩
  have hroot : Runs crossingCache.gatewayHosts (.ofRoot ⟨"default", "store"⟩ storeHost) []
      { apiRoute with delegate := some ⟨"users", some "team"⟩ } := by
    refine .of_split rfl (by simp) (not_stops (by decide) (by decide) ?_)
    rintro _ child ⟨⟩ hfound
    cases hfound
    exact ⟨by decide, rfl⟩
  have husers : Runs crossingCache.gatewayHosts usersFrame []
      { apiRoute with delegate := some ⟨"api", none⟩ } := by
    refine .of_split rfl (by simp) (not_stops (by decide) (by decide) ?_)
    rintro _ child ⟨⟩ hfound
    cases hfound
    exact ⟨by decide, rfl⟩
  have hfirst : Delegates crossingCache.gatewayHosts (.ofRoot ⟨"default", "store"⟩ storeHost)
      usersFrame := .intro hroot rfl rfl
  have hsecond : Delegates crossingCache.gatewayHosts usersFrame crossingFrame :=
    .intro husers rfl rfl
  exact ⟨storeHost, _, .off, accepted, rfl, ReflTransGen.tail (.single hfirst) hsecond⟩

/-- The first entry of `api` closes a cycle on the way from the second root. -/
theorem crossingFrame_stops : Stops crossingCache.gatewayHosts crossingFrame leadingEntry :=
  .cycle ⟨"users", none⟩ (leadingHost "users" ⟨"api", none⟩) rfl rfl (by decide)

/-- A host is found in order although on one of its ways an entry does not pass and the entry for a
service behind it is not reached, and although a filter of an entry does not resolve. -/
theorem crossing_not_whole :
    (¬ ∀ i status, (Graph.build crossingCache).statuses.find? (hostRef i) = some status →
      status.outcome.kind = .valid → ∀ root g, Entered crossingCache root g → g.owner = i →
        ∀ earlier route, earlier ++ [route] <+: g.routes →
          Runs crossingCache.gatewayHosts g earlier route) ∧
    ¬ ∀ i status, (Graph.build crossingCache).statuses.find? (hostRef i) = some status →
      status.outcome.kind = .valid → ∀ root g, Entered crossingCache root g → g.owner = i →
        ∀ route ∈ g.routes, ∀ ref ∈ route.filters, Resolves crossingCache .route i.space ref := by
  constructor
  · intro hall
    have hruns := hall _ _ crossing_status rfl _ _ crossingFrame_entered rfl [leadingEntry]
      servingEntry ⟨[], rfl⟩
    exact hruns.goesOn leadingEntry List.mem_cons_self crossingFrame_stops
  · intro hall
    obtain ⟨filter, hfilter⟩ := hall _ _ crossing_status rfl _ _ crossingFrame_entered rfl
      leadingEntry List.mem_cons_self ⟨"gone", none⟩ List.mem_cons_self
    cases hfilter

/-- What is true of the host all the same: its entry for a service is served. -/
theorem crossing_valid :
    crossingCache.PortsDistinct ∧
    (Graph.build crossingCache).statuses.find? (hostRef ⟨"team", "api"⟩)
      = some ⟨.valid .gatewayHost, "site.test"⟩ ∧
    Served crossingCache "team" servingEntry := by
  obtain ⟨distinct, noForwarding⟩ := crossing_hypotheses
  refine ⟨distinct, crossing_status, ?_⟩
  rcases build_valid distinct noForwarding crossing_status rfl with
    ⟨i, host, heq, -, -, -, hvisits⟩ | ⟨i, r, heq, -⟩
  · cases heq
    have hvisit := hvisits _ _ crossingFrame_entered rfl
    exact hvisit.served servingEntry (List.mem_cons_of_mem _ List.mem_cons_self) rfl
  · cases heq

end GatewayCompiler.Build
