import GatewayCompiler.Proofs.Delegation.Entries

/-!
# The service routes of a domain name

Behind the routes of a root come the service routes of its domain name, each of them up to its first
route that is not in order.

## Main definitions

* `MergeStep` — the steps that the service routes of a domain name make.
* `mergedOffers` — the routes that they have served.

## Main statements

* `mem_mergeSteps` — every step belongs to a service route.
* `merges_mergeSteps` — every service route of the domain name is merged and gets an outcome.
* `filterMap_offer?_mergeSteps` — the routes that the steps serve.
-/

namespace GatewayCompiler.Build

variable {engine : Pattern.Engine} {cache : Cache}

/-- `MergeStep cache fqdn s` says that the service routes of the domain name `fqdn` make the step
`s`. -/
inductive MergeStep (cache : Cache) (fqdn : String) : Step → Prop
  /-- A service route is merged. -/
  | merge {i : Identity} {r : ServiceRoute} (found : cache.serviceRoutes.find? i = some r)
      (domain : r.domain = fqdn) : MergeStep cache fqdn (.merge i)
  /-- A route is served. -/
  | serve {i : Identity} {r : ServiceRoute} (found : cache.serviceRoutes.find? i = some r)
      (domain : r.domain = fqdn) (route : RouteSpec) (own : route ∈ r.routes) :
      MergeStep cache fqdn (.serve ⟨i, .serviceRoute⟩ route route.conditions)
  /-- A service route is found in order or not. -/
  | settle {i : Identity} {r : ServiceRoute} (found : cache.serviceRoutes.find? i = some r)
      (domain : r.domain = fqdn) (outcome : Outcome) (kind : outcome.kind ≠ .orphaned)
      (noCycle : ∀ way, outcome ≠ .invalid (.routeCycle way)) :
      MergeStep cache fqdn (.settle ⟨i, .serviceRoute⟩ outcome)

theorem mem_serviceRouteSteps {i : Identity} {r : ServiceRoute} {fqdn : String}
    (hfound : cache.serviceRoutes.find? i = some r) (hdomain : r.domain = fqdn)
    {routes : List RouteSpec} (hsub : routes ⊆ r.routes) {s : Step}
    (h : s ∈ serviceRouteSteps i routes) : MergeStep cache fqdn s := by
  induction routes with
  | nil =>
    rw [List.mem_singleton.mp h]
    exact .settle hfound hdomain _ (by simp [Outcome.kind]) (by rintro _ ⟨⟩)
  | cons route rest ih =>
    rw [serviceRouteSteps] at h
    -- the first entry that cannot be served settles the whole object, whatever stands behind it
    split at h
    · rw [List.mem_singleton.mp h]
      exact .settle hfound hdomain _ (by simp [Outcome.kind]) (by rintro _ ⟨⟩)
    · split at h
      · rw [List.mem_singleton.mp h]
        exact .settle hfound hdomain _ (by simp [Outcome.kind]) (by rintro _ ⟨⟩)
      · rcases List.mem_cons.mp h with rfl | h
        · exact .serve hfound hdomain route (hsub List.mem_cons_self)
        · exact ih (fun _ hr => hsub (List.mem_cons_of_mem _ hr)) h

/-- Every step for service routes belongs to one of them: `mergeSteps` makes no others. -/
theorem mem_mergeSteps {fqdn : String} {s : Step} (h : s ∈ mergeSteps cache.serviceRoutes fqdn) :
    MergeStep cache fqdn s := by
  obtain ⟨⟨i, r⟩, hmem, hs⟩ := List.mem_flatMap.mp h
  obtain ⟨hmem, hdomain⟩ := List.mem_filter.mp hmem
  have hfound := OrderedMap.find?_eq_some_of_mem hmem
  have hdomain : r.domain = fqdn := by simpa using hdomain
  rcases List.mem_cons.mp hs with rfl | hs
  · exact .merge hfound hdomain
  · exact mem_serviceRouteSteps hfound hdomain (List.Subset.refl _) hs

/-- A service route gets an outcome when it is merged. -/
theorem settles_serviceRouteSteps (i : Identity) (routes : List RouteSpec) :
    ∃ outcome, .settle ⟨i, .serviceRoute⟩ outcome ∈ serviceRouteSteps i routes := by
  induction routes with
  | nil => exact ⟨_, List.mem_singleton_self _⟩
  | cons route rest ih =>
    rw [serviceRouteSteps]
    split
    · exact ⟨_, List.mem_singleton_self _⟩
    · split
      · exact ⟨_, List.mem_singleton_self _⟩
      · exact ih.imp fun _ h => List.mem_cons_of_mem _ h

/-- The service routes of a domain name are merged and get an outcome, each of those that `cache`
has. -/
theorem merges_mergeSteps {i : Identity} {r : ServiceRoute}
    (hfound : cache.serviceRoutes.find? i = some r) :
    .merge i ∈ mergeSteps cache.serviceRoutes r.domain ∧
      ∃ outcome, .settle ⟨i, .serviceRoute⟩ outcome ∈ mergeSteps cache.serviceRoutes r.domain := by
  have hmem : (i, r) ∈ cache.serviceRoutes.toList.filter fun p => p.2.domain = r.domain :=
    List.mem_filter.mpr ⟨OrderedMap.mem_of_find?_eq_some hfound, by simp⟩
  obtain ⟨outcome, hsettle⟩ := settles_serviceRouteSteps i r.routes
  exact ⟨List.mem_flatMap.mpr ⟨_, hmem, List.mem_cons_self⟩, outcome,
    List.mem_flatMap.mpr ⟨_, hmem, List.mem_cons_of_mem _ hsettle⟩⟩

/-! ### What is served -/

/-- `isServed route` says that a route of a service route is in order, so that it is served. -/
def isServed [Pattern.Engine] (route : RouteSpec) : Bool :=
  (checkConditions route.conditions).isOk && route.delegate.isNone

/-- The routes that the service routes of a domain name have served: those of each service route up
to the first one that is not in order, under their own conditions alone. -/
def mergedOffers [Pattern.Engine] (serviceRoutes : OrderedMap Identity ServiceRoute)
    (fqdn : String) : List Offer :=
  (serviceRoutes.toList.filter fun p => p.2.domain = fqdn).flatMap fun p =>
    (p.2.routes.takeWhile isServed).map fun route =>
      ⟨⟨p.1, .serviceRoute⟩, route, route.conditions⟩

theorem filterMap_offer?_serviceRouteSteps (i : Identity) (routes : List RouteSpec) :
    (serviceRouteSteps i routes).filterMap Step.offer? =
      (routes.takeWhile isServed).map fun route =>
        (⟨⟨i, .serviceRoute⟩, route, route.conditions⟩ : Offer) := by
  induction routes with
  | nil => rfl
  | cons route rest ih =>
    rw [serviceRouteSteps]
    -- a refused entry and a delegating one both end the offers here and the prefix that `takeWhile`
    -- keeps
    cases hcheck : checkConditions route.conditions with
    | error e =>
      have hbad : isServed route = false := by simp [isServed, hcheck, Except.isOk, Except.toBool]
      rw [List.takeWhile_cons_of_neg (by simp [hbad])]
      rfl
    | ok _ =>
      cases hdelegate : route.delegate with
      | some d =>
        have hbad : isServed route = false := by simp [isServed, hdelegate]
        rw [List.takeWhile_cons_of_neg (by simp [hbad])]
        rfl
      | none =>
        have hgood : isServed route = true := by
          simp [isServed, hcheck, hdelegate, Except.isOk, Except.toBool]
        rw [List.takeWhile_cons_of_pos hgood, List.map_cons, ← ih]
        rfl

/-- The routes that the steps for the service routes of a domain name serve are the `mergedOffers`,
in their order. -/
theorem filterMap_offer?_mergeSteps (serviceRoutes : OrderedMap Identity ServiceRoute)
    (fqdn : String) :
    (mergeSteps serviceRoutes fqdn).filterMap Step.offer? = mergedOffers serviceRoutes fqdn := by
  unfold mergeSteps mergedOffers
  rw [List.filterMap_flatMap]
  congr 1
  funext p
  rw [List.filterMap_cons]
  exact filterMap_offer?_serviceRouteSteps p.1 p.2.routes

end GatewayCompiler.Build
