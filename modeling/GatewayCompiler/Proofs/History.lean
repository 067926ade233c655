import GatewayCompiler.Proofs.Statuses
import Mathlib.Data.List.Chain

/-!
# The history of the statuses

The statuses of a build are recorded one after the other, and the first one of an object is final.
What the final statuses say about each other therefore depends on the order in which they were
recorded.  Here a build is seen as a history of records, each with what is known when it is made: a
host is found in order only after all hosts that it delegates to have got their statuses, and a cycle
is reported only by a host that closes it.

It is assumed that no host forwards connections, since a host that does is found in order for other
reasons.

## Main definitions

* `RouteLink` — one host delegates to another one.
* `Entered` — the walk over the routes of an accepted root enters a host.
* `Recordable` — the outcomes that may be recorded after some statuses.
* `History` — statuses come from others by records.

## Main statements

* `Walk.history` — a walk is a history, in which the host that it begins with gets a status.
* `buildAll_history` — so is a build.
-/

namespace GatewayCompiler.Build

open Relation

variable {engine : Pattern.Engine} {cache : Cache}

/-- `RouteLink hosts i j` says that the host `i` delegates to `j`: an entry of the first names the
second, which is there. -/
def RouteLink (hosts : OrderedMap Identity GatewayHost) (i j : Identity) : Prop :=
  ∃ host, hosts.find? i = some host ∧ ∃ route ∈ host.routes, ∃ d : Delegate,
    route.delegate = some d ∧ d.target i.space = j ∧ hosts.contains j

/-- `Entered cache root g` says that the walk over the routes of the accepted root `root` enters a
host with `g`. -/
def Entered [Pattern.Engine] (cache : Cache) (root : Identity) (g : RouteFrame) : Prop :=
  ∃ host v mode, Accepted cache root host v mode ∧ mode.forwards host = false ∧
    Enters cache.gatewayHosts (.ofRoot root host) g

namespace Entered

variable {root : Identity} {g : RouteFrame}

theorem isChain (h : Entered cache root g) : IsChain cache.gatewayHosts root g.chain g.owner := by
  obtain ⟨host, v, mode, haccepted, -, henters⟩ := h
  exact henters.isChain haccepted.found

/-- A host is entered with its own routes. -/
theorem routes_eq (h : Entered cache root g) :
    ∃ owner, cache.gatewayHosts.find? g.owner = some owner ∧ g.routes = owner.routes := by
  obtain ⟨host, v, mode, haccepted, -, henters⟩ := h
  exact henters.routes_eq haccepted.found

theorem tail (h : Entered cache root g) {f : RouteFrame} (hdel : Delegates cache.gatewayHosts g f) :
    Entered cache root f := by
  obtain ⟨host, v, mode, haccepted, hserves, henters⟩ := h
  exact ⟨host, v, mode, haccepted, hserves, ReflTransGen.tail henters hdel⟩

theorem visited (h : Entered cache root g) : Visited cache g.owner := by
  obtain ⟨host, v, mode, haccepted, hserves, henters⟩ := h
  exact .routes haccepted hserves henters

/-- An entry of a host that is entered leads to its delegate, so that there is a `RouteLink` between
them. -/
theorem link (h : Entered cache root g) {route : RouteSpec} (hroute : route ∈ g.routes)
    {d : Delegate} (hdelegate : route.delegate = some d)
    (hthere : cache.gatewayHosts.contains (d.target g.owner.space)) :
    RouteLink cache.gatewayHosts g.owner (d.target g.owner.space) := by
  obtain ⟨owner, howner, hroutes⟩ := h.routes_eq
  exact ⟨owner, howner, route, hroutes ▸ hroute, d, hdelegate, rfl, hthere⟩

/-- Every host on the way delegates to the next one: `g.chain` is a chain of links. -/
theorem links (h : Entered cache root g) :
    List.IsChain (RouteLink cache.gatewayHosts) g.chain := by
  obtain ⟨host, v, mode, haccepted, hserves, henters⟩ := h
  -- over the delegations from the root: each adds one host to the chain, and the link to it
  induction henters with
  | refl => exact .singleton root
  | @tail f g hf hdel ih =>
    have hentered : Entered cache root f := ⟨host, v, mode, haccepted, hserves, hf⟩
    rw [hdel.chain_eq]
    refine List.isChain_append.mpr ⟨ih, .singleton _, ?_⟩
    intro i hi j hj
    rw [hentered.isChain.last] at hi
    cases hi
    cases hj
    cases hdel with
    | @intro earlier route d child runs delegate found =>
      exact hentered.link (runs.place.subset (List.mem_append_right _ (List.mem_singleton_self _)))
        delegate (OrderedMap.contains_eq_true_iff.mpr ⟨child, found⟩)

end Entered

/-! ### Problems that are no cycles -/

/-- `Plain problem` says that a problem is not that of a cycle of route delegations. -/
def Plain (problem : Problem) : Prop := ∀ way, problem ≠ .routeCycle way

theorem resolveFilters_plain (cache : Cache) (scope : FilterScope) (space : String)
    (refs : List FilterRef) : ∀ problem ∈ (resolveFilters cache scope space refs).2, Plain problem := by
  intro problem hproblem way heq
  subst heq
  obtain ⟨found, hfound, hsome⟩ := List.mem_filterMap.mp hproblem
  obtain ⟨ref, -, rfl⟩ := List.mem_map.mp hfound
  -- a filter that cannot be resolved is missing, or of a kind that does not go there; neither is a
  -- cycle
  unfold resolveFilter at hsome
  simp only at hsome
  split at hsome
  · cases hsome
  · next heq =>
    cases hsome
    split at heq
    · cases heq
    · split at heq
      · cases heq
      · cases heq

theorem ValidationResult.plain {space : String} {s : ServiceSpec} {problem : Problem}
    (h : ValidationResult cache space s (.error problem)) : Plain problem := by
  rintro way rfl
  cases h

theorem CertificateResult.plain {space : String} {s : ServiceSpec} {problem : Problem}
    (h : CertificateResult cache space s (.error problem)) : Plain problem := by
  rintro way rfl
  cases h

theorem checkService_plain {s : ServiceSpec} {problem : Problem}
    (h : checkService s = .error problem) : Plain problem := by
  rintro way rfl
  unfold checkService at h
  split at h
  · cases h
  · split at h
    · cases h
    · cases h

theorem givenProtocol_plain {s : ServiceSpec} {problem : Problem}
    (h : givenProtocol s = .error problem) : Plain problem := by
  rintro way rfl
  unfold givenProtocol at h
  split at h
  · cases h
  · split at h
    · cases h
    · cases h

/-- `clusterProblems result` are the problems of a cluster, of the ones that leave it out and of its
filters. -/
def clusterProblems : Except Problem (Cluster × List Problem) → List Problem
  | .ok (_, problems) => problems
  | .error problem => [problem]

theorem buildCluster_plain (space : String) (s : ServiceSpec) :
    Answers cache (buildCluster cache space s).run fun result =>
      ∀ problem ∈ clusterProblems result, Plain problem := by
  have hone : ∀ {problem : Problem}, Plain problem →
      ∀ other ∈ clusterProblems (.error problem), Plain other := by
    intro problem hproblem other hother
    rw [List.mem_singleton.mp hother]
    exact hproblem
  have hmade : ∀ cluster : Cluster, ∀ problem ∈ clusterProblems
      (.ok (cluster, (resolveFilters cache .cluster space s.filters).2)), Plain problem :=
    fun _ => resolveFilters_plain cache .cluster space s.filters
  unfold buildCluster
  -- the steps of the function in order: a problem at any of them is the only one
  refine .bindExcept (fun _ _ => ?_) fun problem h => hone (checkService_plain h)
  refine .bindExcept (fun given _ => ?_) fun problem h => hone (givenProtocol_plain h)
  refine (lookupBackend_answers _ _ _).bindLift fun found _ => ?_
  cases found with
  | none => exact .pure (hone (by rintro _ ⟨⟩))
  | some backend =>
    simp only
    split
    · refine (buildValidation_result space s).answers.bindAttempt (fun validation _ => ?_)
        fun problem h => hone h.plain
      refine (buildClientCertificate_result space s).answers.bindAttempt (fun keys _ => ?_)
        fun problem h => hone h.plain
      exact .pure (hmade _)
    · exact .pure (hmade _)

theorem buildClusters_plain (space : String) (services : List ServiceSpec) :
    Answers cache (buildClusters cache space services) fun result =>
      ∀ problem ∈ result.2, Plain problem := by
  -- over the services: the problems of the first stand in front of those of the rest
  induction services with
  | nil => exact .pure (by simp)
  | cons s rest ih =>
    rw [buildClusters]
    refine (buildCluster_plain space s).bind fun built hbuilt => ?_
    refine ih.bind fun result hresult => ?_
    cases built with
    | ok made =>
      refine .pure fun problem hproblem => ?_
      rcases List.mem_append.mp hproblem with hproblem | hproblem
      · exact hbuilt problem hproblem
      · exact hresult problem hproblem
    | error problem' =>
      refine .pure fun problem hproblem => ?_
      rcases List.mem_cons.mp hproblem with rfl | hproblem
      · exact hbuilt problem (List.mem_singleton_self _)
      · exact hresult problem hproblem

/-- The problems with a route that is served are no cycles: they are problems with its services and
filters. -/
theorem buildRoute_plain (space : String) (spec : RouteSpec) (conditions : List Condition) :
    Answers cache (buildRoute cache space spec conditions) fun result =>
      ∀ problem ∈ result.2, Plain problem := by
  unfold buildRoute
  split
  · refine .pure fun problem hproblem way => ?_
    rw [List.mem_singleton.mp hproblem]
    rintro ⟨⟩
  · simp only
    refine (buildClusters_plain space spec.services).bind fun result hresult => .pure ?_
    intro problem hproblem
    rcases List.mem_append.mp hproblem with hproblem | hproblem
    · exact resolveFilters_plain cache .route space spec.filters problem hproblem
    · exact hresult problem hproblem

/-- The problem for which a root is refused is no cycle. -/
theorem rootMode_plain {root : Identity} {v : VirtualHostSpec} {problem : Problem}
    (h : rootMode cache root v = .error problem) : Plain problem := by
  rintro way rfl
  have hresult := rootMode_result cache root v
  rw [h] at hresult
  -- none of the rules for a check has a cycle for its problem
  cases hresult with
  | settled space domain star settings =>
    generalize v.tls = tls? at settings
    cases settings

/-! ### Records -/

/-- `Recordable cache statuses object outcome` says that `outcome` may be recorded for `object`
after `statuses`.  For a host that is found in order, its delegates must have their statuses
already. -/
inductive Recordable [Pattern.Engine] (cache : Cache) (statuses : Ledger Status) :
    ObjectRef → Outcome → Prop
  /-- Something is wrong with an object, but no cycle is closed. -/
  | problem {object : ObjectRef} {problem : Problem} (plain : Plain problem) :
      Recordable cache statuses object (.invalid problem)
  /-- A host that is entered closes a cycle. -/
  | cycle {root : Identity} {g : RouteFrame} {route : RouteSpec} {way : List Identity}
      (entered : Entered cache root g) (own : route ∈ g.routes)
      (closes : Closes cache.gatewayHosts g route way) :
      Recordable cache statuses (hostRef g.owner) (.invalid (.routeCycle way))
  /-- A host that is entered is in order, and the hosts that it delegates to have their statuses. -/
  | accept {root : Identity} {g : RouteFrame} (entered : Entered cache root g)
      (behind : ∀ j, RouteLink cache.gatewayHosts g.owner j → statuses.contains (hostRef j)) :
      Recordable cache statuses (hostRef g.owner) (.valid .gatewayHost)
  /-- A service route gets a status. -/
  | serviceRoute {i : Identity} {outcome : Outcome}
      (noCycle : ∀ way, outcome ≠ .invalid (.routeCycle way)) :
      Recordable cache statuses ⟨i, .serviceRoute⟩ outcome

/-- `Recorded cache statuses statuses'` says that `statuses'` come from `statuses` by one record. -/
inductive Recorded [Pattern.Engine] (cache : Cache) (statuses : Ledger Status) : Ledger Status → Prop
  /-- The outcome may be recorded. -/
  | intro {object : ObjectRef} {outcome : Outcome} (host : String)
      (may : Recordable cache statuses object outcome) :
      Recorded cache statuses (statuses.record object ⟨outcome, host⟩)

/-- `History cache statuses statuses'` says that `statuses'` come from `statuses` by records, one
after the other. -/
abbrev History [Pattern.Engine] (cache : Cache) : Ledger Status → Ledger Status → Prop :=
  ReflTransGen (Recorded cache)

/-- A status stays, whatever is recorded after it. -/
theorem History.find? {statuses statuses' : Ledger Status} (h : History cache statuses statuses')
    {object : ObjectRef} {status : Status} (hfind : OrderedMap.find? statuses object = some status) :
    OrderedMap.find? statuses' object = some status := by
  induction h with
  | refl => exact hfind
  | tail _ hrecorded ih =>
    cases hrecorded with
    | @intro other outcome host may =>
      by_cases heq : object = other
      · subst heq
        rw [Ledger.find?_record_self, ih]
        rfl
      · rw [Ledger.find?_record_of_ne _ _ heq, ih]

theorem History.contains {statuses statuses' : Ledger Status} (h : History cache statuses statuses')
    {object : ObjectRef} (hthere : OrderedMap.contains statuses object) :
    OrderedMap.contains statuses' object := by
  obtain ⟨status, hfind⟩ := OrderedMap.contains_eq_true_iff.mp hthere
  exact OrderedMap.contains_eq_true_iff.mpr ⟨status, h.find? hfind⟩

namespace Building

theorem settle_history {b : Building} {object : ObjectRef} {outcome : Outcome}
    (may : Recordable cache b.statuses object outcome) (host : String) :
    History cache b.statuses (b.settle object outcome host).statuses :=
  .single (.intro host may)

theorem report_history (object : ObjectRef) {problems : List Problem}
    (hplain : ∀ problem ∈ problems, Plain problem) (host : String) (b : Building) :
    History cache b.statuses (b.report object problems host).statuses := by
  induction problems generalizing b with
  | nil => exact .refl
  | cons problem rest ih =>
    have hfirst : History cache b.statuses (b.settle object (.invalid problem) host).statuses :=
      settle_history (.problem (hplain problem List.mem_cons_self)) host
    exact hfirst.trans (ih (fun p hp => hplain p (List.mem_cons_of_mem _ hp)) _)

/-- A route that is served has only its own problems recorded, which are `Plain`. -/
theorem serve_history [engine : Pattern.Engine] {b : Building} (hb : b.lookups.Sound cache) (place : Place)
    (object : ObjectRef) (spec : RouteSpec) (conditions : List Condition) :
    History cache b.statuses (b.serve cache place object spec conditions).statuses := by
  unfold serve
  have hplain := look_answer (buildRoute_plain object.identity.space spec conditions) hb
  have hlook : (b.look (buildRoute cache object.identity.space spec conditions)).2.statuses
      = b.statuses := rfl
  generalize b.look (buildRoute cache object.identity.space spec conditions) = found at hplain hlook ⊢
  obtain ⟨⟨route, problems⟩, b'⟩ := found
  have hreport := @report_history engine cache object problems hplain place.host b'
  rw [show b'.statuses = b.statuses from hlook] at hreport
  cases route with
  | none => exact hreport
  | some route =>
    -- attaching a route changes hosts only
    have hattach : ∀ b : Building,
        (b.attach place route spec.permitInsecure).statuses = b.statuses := by
      intro b
      unfold attach
      simp only
      split
      · rfl
      · rfl
    simp only
    rw [hattach]
    exact hreport

/-- The steps for service routes record statuses of service routes and `Plain` problems. -/
theorem takeAll_mergeSteps_history (place : Place) (fqdn : String) {b : Building}
    (hb : b.lookups.Sound cache) :
    History cache b.statuses
      (b.takeAll cache place (mergeSteps cache.serviceRoutes fqdn)).statuses := by
  unfold takeAll
  refine (List.foldlRecOn (motive := fun b' : Building =>
    b'.lookups.Sound cache ∧ History cache b.statuses b'.statuses) _ _ ⟨hb, .refl⟩ ?_).2
  rintro b' ⟨hsound, hhistory⟩ s hs
  refine ⟨(take_follows place b' s).lookups hsound, hhistory.trans ?_⟩
  cases mem_mergeSteps hs with
  | merge found domain => exact .refl
  | serve found domain route own => exact serve_history hsound place _ route _
  | settle found domain outcome kind noCycle =>
    exact settle_history (.serviceRoute noCycle) place.host

end Building

/-! ### Walks -/

/-- A walk is a history.  Before each route, the hosts that earlier routes delegate to have their
statuses, so that all of them do when the host itself is found in order. -/
theorem Walk.history {place : Place} {root : Identity} {finish : List Step} {f : RouteFrame}
    {earlier rest : List RouteSpec} {steps : List Step}
    (h : Walk cache.gatewayHosts finish f earlier rest steps) (entered : Entered cache root f)
    (hfinish : ∀ b : Building, b.lookups.Sound cache →
      History cache b.statuses (b.takeAll cache place finish).statuses)
    {b : Building} (hb : b.lookups.Sound cache)
    (behind : ∀ route ∈ earlier, ∀ d : Delegate, route.delegate = some d →
      cache.gatewayHosts.contains (d.target f.owner.space) →
      b.statuses.contains (hostRef (d.target f.owner.space))) :
    History cache b.statuses (b.takeAll cache place steps).statuses := by
  induction h generalizing b with
  | @done finish f earlier split ok =>
    rw [Building.takeAll_append]
    have hfirst := hfinish b hb
    refine hfirst.trans (Building.settle_history (.accept entered fun j hlink => ?_) place.host)
    obtain ⟨host, hfound, route, hroute, d, hdelegate, rfl, hthere⟩ := hlink
    obtain ⟨owner, howner, hroutes⟩ := entered.routes_eq
    rw [hfound] at howner
    cases howner
    rw [← hroutes, split] at hroute
    exact hfirst.contains (behind route hroute d hdelegate hthere)
  | @stop finish f earlier route rest problem leads split stops known closes =>
    rw [Building.takeAll_append]
    have hreach := @Building.takeAll_reach_statuses cache place leads b
    have hmay : Recordable cache (b.takeAll cache place (leads.map .reach)).statuses
        (hostRef f.owner) (.invalid problem) := by
      by_cases hcycle : ∃ way, problem = .routeCycle way
      · obtain ⟨way, rfl⟩ := hcycle
        exact .cycle entered (by simp [split]) (closes way rfl)
      · exact .problem fun way heq => hcycle ⟨way, heq⟩
    have hsettle := Building.settle_history hmay place.host
    rw [hreach] at hsettle
    exact hsettle
  | @serve finish f earlier route rest steps split runs own next ih =>
    have hserve := Building.serve_history hb place (hostRef f.owner) route
      (f.inherited ++ route.conditions)
    have hsound := (Building.serve_follows place (hostRef f.owner) route
      (f.inherited ++ route.conditions) b).lookups hb
    refine hserve.trans (ih entered hfinish hsound fun r hr d hdelegate hthere => ?_)
    rcases List.mem_append.mp hr with hr | hr
    · exact hserve.contains (behind r hr d hdelegate hthere)
    · rw [List.mem_singleton.mp hr, own] at hdelegate
      cases hdelegate
  | @skip finish f earlier route rest steps d split runs delegate missing next ih =>
    refine ih entered hfinish hb fun r hr d' hdelegate hthere => ?_
    rcases List.mem_append.mp hr with hr | hr
    · exact behind r hr d' hdelegate hthere
    · rw [List.mem_singleton.mp hr, delegate] at hdelegate
      cases hdelegate
      rw [OrderedMap.contains, missing] at hthere
      cases hthere
  | @enter finish f earlier route rest inner steps d child split runs delegate found below next
      ihBelow ihNext =>
    have hdel := Delegates.intro runs delegate found
    change History cache b.statuses
      ((b.reach (d.target f.owner.space)).takeAll cache place (inner ++ steps)).statuses
    rw [Building.takeAll_append]
    have hsound : (b.reach (d.target f.owner.space)).lookups.Sound cache := hb
    have hinner := ihBelow (entered.tail hdel) (fun b _ => .refl) hsound (by simp)
    have hfollows := @Building.takeAll_follows cache place inner
      (b.reach (d.target f.owner.space))
    -- the delegate has got its status when the next route is looked at
    obtain ⟨outcome, hsettle⟩ := below.settles
    have hdone := hfollows.settled _ hsettle _ rfl
    refine hinner.trans (ihNext entered hfinish (hfollows.lookups hsound) fun r hr d' hdelegate
      hthere => ?_)
    rcases List.mem_append.mp hr with hr | hr
    · exact hinner.contains (behind r hr d' hdelegate hthere)
    · rw [List.mem_singleton.mp hr, delegate] at hdelegate
      cases hdelegate
      exact hdone

/-! ### Roots -/

namespace Building

/-- Before the walk of a root, only the problems with its filters are recorded. -/
theorem openRoot_history (root : Identity) (host : GatewayHost) (v : VirtualHostSpec)
    (mode : TlsMode) (b : Building) :
    History cache b.statuses (b.openRoot cache root host v mode).statuses := by
  have hreport : ∀ b : Building, History cache b.statuses (b.report (hostRef root)
      (resolveFilters cache .virtualHost root.space v.filters).2 v.domain).statuses :=
    report_history (hostRef root) (resolveFilters_plain cache .virtualHost root.space v.filters)
      v.domain
  unfold openRoot
  cases mode with
  | off => exact hreport b
  | terminate certificate minVersion =>
    simp only
    split
    · exact hreport b
    · exact hreport b
  | passthrough =>
    simp only
    split
    · exact .refl
    · exact hreport (b.onSecureHost v.domain id)

/-- A root that shares its domain name is reported, and nothing about cycles is. -/
theorem reportSharers_history (b : Building) (root : Identity × GatewayHost) :
    History cache b.statuses (b.reportSharers cache root).statuses := by
  unfold reportSharers
  split
  · exact .refl
  · simp only
    split
    · exact settle_history (.problem (by rintro _ ⟨⟩)) _
    · exact .refl

/-- A root is a history: it is left out, refused after its check, or accepted and walked.  With
`hforwards` there is no walk over a forwarding. -/
theorem addRoot_history {b : Building} (hb : b.lookups.Sound cache) {root : Identity}
    {host : GatewayHost} (hfound : cache.gatewayHosts.find? root = some host)
    (hforwards : host.tcpProxy = none) :
    History cache b.statuses (b.addRoot cache (root, host)).statuses := by
  have hadded := addRoot_added hfound hb
  generalize b.addRoot cache (root, host) = b' at hadded ⊢
  cases hadded with
  | noRoot virtualHost => exact .refl
  | shared virtualHost many => exact .refl
  | @refused v problem lookups virtualHost alone mode sound =>
    have hreport := @settle_history _ cache { b with lookups } (hostRef root) (.invalid problem)
      (.problem (rootMode_plain mode)) v.domain
    exact hreport
  | @served v mode lookups accepted sound =>
    -- no host forwards, so the root is served and its walk is one over routes
    have hserves : mode.forwards host = false := by
      unfold TlsMode.forwards
      cases mode <;> simp [hforwards]
    have entered : Entered cache root (.ofRoot root host) :=
      ⟨host, v, mode, accepted, hserves, .refl⟩
    have hsound := (openRoot_follows root host v mode { b with lookups }).lookups sound
    have hopen := @openRoot_history engine cache root host v mode { b with lookups }
    rw [walkSteps, hserves]
    exact hopen.trans ((walk_serveSteps root host v.domain).history entered
      (fun b hb => takeAll_mergeSteps_history _ v.domain hb) hsound (by simp))

end Building

/-- When no host forwards connections, a build is a `History` from the statuses of its start. -/
theorem buildAll_history [Pattern.Engine]
    (noForwarding : ∀ i host, cache.gatewayHosts.find? i = some host → host.tcpProxy = none) :
    History cache (holdOrphans cache (addIngresses cache)).statuses (buildAll cache).statuses := by
  have hstart := (holdOrphans_untouched cache).lookups
  -- first the roots that share a domain name are reported, then all roots are served
  have hsort : (sortHosts cache (addIngresses cache)).lookups.Sound cache ∧
      History cache (holdOrphans cache (addIngresses cache)).statuses
        (sortHosts cache (addIngresses cache)).statuses := by
    unfold sortHosts
    refine List.foldlRecOn (motive := fun b : Building => b.lookups.Sound cache ∧
      History cache (holdOrphans cache (addIngresses cache)).statuses b.statuses) _ _
      ⟨hstart, .refl⟩ ?_
    rintro b ⟨hsound, hhistory⟩ root -
    exact ⟨(Building.reportSharers_follows b root).lookups hsound,
      hhistory.trans (Building.reportSharers_history b root)⟩
  unfold buildAll
  refine (List.foldlRecOn (motive := fun b : Building => b.lookups.Sound cache ∧
    History cache (holdOrphans cache (addIngresses cache)).statuses b.statuses) _ _ hsort ?_).2
  rintro b ⟨hsound, hhistory⟩ ⟨root, host⟩ hmem
  have hfound := OrderedMap.find?_eq_some_of_mem hmem
  exact ⟨(Building.addRoot_follows b (root, host) hsound).lookups hsound,
    hhistory.trans (Building.addRoot_history hsound hfound (noForwarding root host hfound))⟩

end GatewayCompiler.Build
