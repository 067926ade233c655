import GatewayCompiler.Proofs.Ingress
import GatewayCompiler.Proofs.Roots

/-!
# Which objects get a status

Every host and every service route gets one status, whatever the delegations look like.  An object
is an orphan exactly when no walk has come to it: a host that is no root has to be entered by one of
the two walks, and a service route has to be merged by a root whose routes are all in order.

## Main definitions

* `Visited` — a walk enters a host.
* `Finished` — the walk over the routes of a root of a domain name runs to its end.
* `IsOrphan` — the status of an object is that of an orphan.

## Main statements

* `contains_buildAll` — the objects with a status before orphans are recorded.
* `build_statuses` — the objects with a status, and the orphans among them.
-/

namespace GatewayCompiler.Build

variable {engine : Pattern.Engine} {cache : Cache}

/-- `Visited cache i` says that one of the two walks of an accepted root enters the host `i`. -/
inductive Visited [Pattern.Engine] (cache : Cache) : Identity → Prop
  /-- The walk over routes does. -/
  | routes {root : Identity} {host : GatewayHost} {v : VirtualHostSpec} {mode : TlsMode}
      {g : RouteFrame} (accepted : Accepted cache root host v mode)
      (serves : mode.forwards host = false)
      (enters : Enters cache.gatewayHosts (.ofRoot root host) g) : Visited cache g.owner
  /-- The walk over forwardings does. -/
  | forwarding {root : Identity} {host : GatewayHost} {v : VirtualHostSpec} {mode : TlsMode}
      {g : TcpFrame} (accepted : Accepted cache root host v mode)
      (forwards : mode.forwards host = true)
      (enters : TcpEnters cache.gatewayHosts (.ofRoot root host) g) : Visited cache g.owner

/-- `Finished cache fqdn` says that the walk over the routes of an accepted root of a domain name
runs to its end. -/
def Finished [Pattern.Engine] (cache : Cache) (fqdn : String) : Prop :=
  ∃ root host v mode, Accepted cache root host v mode ∧ mode.forwards host = false ∧
    v.domain = fqdn ∧ Completes cache.gatewayHosts (.ofRoot root host)

/-! ### What the walks do -/

/-- Exactly the hosts that a walk enters are reached, as far as they are no roots. -/
theorem reach_mem_allSteps {i : Identity} {child : GatewayHost}
    (hfound : cache.gatewayHosts.find? i = some child) (hchild : child.virtualHost = none) :
    .reach i ∈ allSteps cache ↔ Visited cache i := by
  constructor
  · intro h
    rcases mem_allSteps h with ⟨_, _, _, -, -, heq⟩ | ⟨root, host, v, mode, haccepted, hs⟩
    · cases heq
    -- a host on the way is entered as well, and a host that leads to a root is not this one
    cases origin_of_mem_walkSteps hs with
    | forwarding hforwards hg hown =>
      cases hown with
      | back _ hseen =>
        obtain ⟨f, hf, rfl⟩ := hg.of_mem_chain hseen
        exact .forwarding haccepted hforwards hf
      | enter _ hdelegates => exact .forwarding haccepted hforwards (hg.tail hdelegates)
    | routes hserves hg hown =>
      cases hown with
      | back _ hseen =>
        obtain ⟨f, hf, rfl⟩ := hg.of_mem_chain hseen
        exact .routes haccepted hserves hf
      | root _ other hother hroot =>
        rw [hfound] at hother
        cases hother
        rw [hchild] at hroot
        cases hroot
      | enter _ hdelegates => exact .routes haccepted hserves (hg.tail hdelegates)
    | merging _ _ hown => cases hown
  · -- an accepted root is not the host itself, so the host was reached by a delegation
    intro h
    cases h with
    | @routes root host v mode g haccepted hserves henters =>
      rcases (walk_serveSteps root host v.domain).reaches_of_enters henters with rfl | hreach
      · rw [show (RouteFrame.ofRoot root host).owner = root from rfl, haccepted.found] at hfound
        cases hfound
        rw [haccepted.virtualHost] at hchild
        cases hchild
      · exact serveSteps_subset_allSteps haccepted hserves hreach
    | @forwarding root host v mode g haccepted hforwards henters =>
      rcases (walk_forwardSteps root host).reaches_of_enters henters with rfl | hreach
      · rw [show (TcpFrame.ofRoot root host).owner = root from rfl, haccepted.found] at hfound
        cases hfound
        rw [haccepted.virtualHost] at hchild
        cases hchild
      · exact forwardSteps_subset_allSteps haccepted hforwards hreach

/-- Exactly the service routes of the domain names with a finished root are merged. -/
theorem merge_mem_allSteps {i : Identity} {r : ServiceRoute}
    (hfound : cache.serviceRoutes.find? i = some r) :
    .merge i ∈ allSteps cache ↔ Finished cache r.domain := by
  constructor
  -- only a merging step merges, and a merge comes behind a walk that completes
  · intro h
    rcases mem_allSteps h with ⟨_, _, _, -, -, heq⟩ | ⟨root, host, v, mode, haccepted, hs⟩
    · cases heq
    cases origin_of_mem_walkSteps hs with
    | forwarding _ _ hown => cases hown
    | routes _ _ hown => cases hown
    | merging hserves hcompletes hown =>
      cases hown with
      | merge hfound' hdomain =>
        rw [hfound] at hfound'
        cases hfound'
        exact ⟨root, host, v, mode, haccepted, hserves, hdomain.symm, hcompletes⟩
  · rintro ⟨root, host, v, mode, haccepted, hserves, hdomain, hcompletes⟩
    refine serveSteps_subset_allSteps haccepted hserves ?_
    refine (walk_serveSteps root host v.domain).finish_subset hcompletes ?_
    rw [hdomain]
    exact (merges_mergeSteps hfound).1

/-- `Examined cache object` says that `object` gets a status before orphans are recorded: it is a
root, a host that a walk enters, or a service route that is merged. -/
inductive Examined [Pattern.Engine] (cache : Cache) : ObjectRef → Prop
  /-- A root. -/
  | root {i : Identity} {host : GatewayHost} (found : cache.gatewayHosts.find? i = some host)
      (root : host.virtualHost.isSome) : Examined cache (hostRef i)
  /-- A host that a walk enters. -/
  | host {i : Identity} (visited : Visited cache i) : Examined cache (hostRef i)
  /-- A service route of a domain name with a finished root. -/
  | serviceRoute {i : Identity} {r : ServiceRoute} (found : cache.serviceRoutes.find? i = some r)
      (finished : Finished cache r.domain) : Examined cache ⟨i, .serviceRoute⟩

/-- Steps only record outcomes of objects that they come to, which are `Examined`, and none of them
is an orphan. -/
theorem records_of_mem_allSteps {s : Step} (h : s ∈ allSteps cache) {object : ObjectRef}
    {outcome : Outcome} (hrecords : s.Records object outcome) :
    Examined cache object ∧ outcome.kind ≠ .orphaned := by
  rcases mem_allSteps h with ⟨root, host, problem, hfound, hroot, rfl⟩ | ⟨root, host, v, mode,
    haccepted, hs⟩
  -- a rejected root records itself; every other record is a step of some walk
  · cases hrecords
    exact ⟨.root hfound hroot, by simp [Outcome.kind]⟩
  cases origin_of_mem_walkSteps hs with
  | @forwarding g hforwards hg hown =>
    have hvisited : Visited cache g.owner := .forwarding haccepted hforwards hg
    cases hown <;> cases hrecords <;> exact ⟨.host hvisited, by simp [Outcome.kind]⟩
  | @routes g hserves hg hown =>
    have hvisited : Visited cache g.owner := .routes haccepted hserves hg
    cases hown <;> cases hrecords <;> exact ⟨.host hvisited, by simp [Outcome.kind]⟩
  | merging hserves hcompletes hown =>
    have hfinished : Finished cache v.domain :=
      ⟨root, host, v, mode, haccepted, hserves, rfl, hcompletes⟩
    cases hown with
    | merge hfound hdomain => cases hrecords
    | serve hfound hdomain =>
      cases hrecords
      exact ⟨.serviceRoute hfound (hdomain ▸ hfinished), by simp [Outcome.kind]⟩
    | settle hfound hdomain _ hkind _ =>
      cases hrecords
      exact ⟨.serviceRoute hfound (hdomain ▸ hfinished), hkind⟩

/-- Every host that a walk enters gets an outcome among `allSteps`. -/
theorem settled_of_visited {i : Identity} (h : Visited cache i) :
    ∃ s ∈ allSteps cache, s.settled? = some (hostRef i) := by
  cases h with
  | @routes root host v mode g haccepted hserves henters =>
    obtain ⟨outcome, hmem⟩ := (walk_serveSteps root host v.domain).settles_of_enters henters
    exact ⟨.settle _ outcome, serveSteps_subset_allSteps haccepted hserves hmem, rfl⟩
  | @forwarding root host v mode g haccepted hforwards henters =>
    rcases (walk_forwardSteps root host).settles_of_enters henters with ⟨outcome, hmem⟩ |
      ⟨services, hmem⟩
    · exact ⟨.settle _ outcome, forwardSteps_subset_allSteps haccepted hforwards hmem, rfl⟩
    · exact ⟨.forward _ services, forwardSteps_subset_allSteps haccepted hforwards hmem, rfl⟩

/-- An accepted root is entered by one of its walks, over its routes or its forwarding. -/
theorem Accepted.visited {root : Identity} {host : GatewayHost} {v : VirtualHostSpec}
    {mode : TlsMode} (h : Accepted cache root host v mode) : Visited cache root := by
  cases hforwards : mode.forwards host with
  | true => exact Visited.forwarding h hforwards .refl
  | false => exact Visited.routes h hforwards .refl

/-- Every object that is examined gets an outcome. -/
theorem settled_of_examined {object : ObjectRef} (h : Examined cache object) :
    ∃ s ∈ allSteps cache, s.settled? = some object := by
  cases h with
  | root hfound hroot =>
    rcases accepted_or_reject hfound hroot with ⟨v, mode, haccepted⟩ | ⟨problem, hmem⟩
    · exact settled_of_visited haccepted.visited
    · exact ⟨_, hmem, rfl⟩
  | host hvisited => exact settled_of_visited hvisited
  | serviceRoute hfound hfinished =>
    obtain ⟨root, host, v, mode, haccepted, hserves, hdomain, hcompletes⟩ := hfinished
    obtain ⟨-, outcome, hmem⟩ := merges_mergeSteps hfound
    rw [← hdomain] at hmem
    have hfinish := (walk_serveSteps root host v.domain).finish_subset hcompletes hmem
    exact ⟨.settle _ outcome, serveSteps_subset_allSteps haccepted hserves hfinish, rfl⟩

/-! ### The statuses before orphans are recorded -/

/-- Holding hosts for orphans changes nothing else, and those without a virtual host are held. -/
theorem foldl_holdOrphan (hosts : List (Identity × GatewayHost)) (b : Building) :
    ∃ orphans, hosts.foldl Building.holdOrphan b = { b with orphans } ∧ ∀ i,
      orphans.contains i ↔ b.orphans.contains i ∨ ∃ host, (i, host) ∈ hosts ∧
        host.virtualHost = none := by
  -- a root is passed over, any other host is held
  induction hosts generalizing b with
  | nil => exact ⟨b.orphans, rfl, by simp⟩
  | cons p rest ih =>
    obtain ⟨j, host⟩ := p
    obtain ⟨orphans, heq, hcontains⟩ := ih (b.holdOrphan (j, host))
    cases hv : host.virtualHost with
    | some v =>
      have hsame : b.holdOrphan (j, host) = b := by simp [Building.holdOrphan, hv]
      rw [hsame] at heq hcontains
      refine ⟨orphans, by rw [List.foldl_cons, hsame, heq], fun i => ?_⟩
      rw [hcontains]
      refine or_congr_right ⟨?_, ?_⟩
      · rintro ⟨other, hmem, hnone⟩
        exact ⟨other, List.mem_cons_of_mem _ hmem, hnone⟩
      · rintro ⟨other, hmem, hnone⟩
        rcases List.mem_cons.mp hmem with heq | hmem
        · cases heq
          rw [hv] at hnone
          cases hnone
        · exact ⟨other, hmem, hnone⟩
    | none =>
      have hheld : b.holdOrphan (j, host) = { b with orphans := b.orphans.insert j () } := by
        simp [Building.holdOrphan, hv]
      rw [hheld] at heq hcontains
      refine ⟨orphans, by rw [List.foldl_cons, hheld, heq], fun i => ?_⟩
      rw [hcontains, OrderedMap.contains_insert]
      constructor
      · rintro ((rfl | hold) | ⟨other, hmem, hnone⟩)
        · exact .inr ⟨host, List.mem_cons_self, hv⟩
        · exact .inl hold
        · exact .inr ⟨other, List.mem_cons_of_mem _ hmem, hnone⟩
      · rintro (hold | ⟨other, hmem, hnone⟩)
        · exact .inl (.inr hold)
        · rcases List.mem_cons.mp hmem with heq | hmem
          · cases heq
            exact .inl (.inl rfl)
          · exact .inr ⟨other, hmem, hnone⟩

/-- `Untouched cache b` says that before any root is served there is no status and nothing is
merged, and the hosts without a virtual host are held for orphans. -/
structure Untouched (cache : Cache) (b : Building) : Prop where
  /-- Only what the cache says is remembered. -/
  lookups : b.lookups.Sound cache
  /-- There is no status. -/
  statuses : ∀ object, b.statuses.contains object = false
  /-- Nothing is merged. -/
  merged : ∀ i, b.merged.contains i = false
  /-- The hosts without a virtual host are held for orphans. -/
  orphans : ∀ i, b.orphans.contains i ↔
    ∃ host, cache.gatewayHosts.find? i = some host ∧ host.virtualHost = none

theorem Untouched.find?_eq_none {b : Building} (h : Untouched cache b) (object : ObjectRef) :
    b.statuses.find? object = none := by
  have hnot := h.statuses object
  rwa [OrderedMap.contains, Option.isSome_eq_false_iff, Option.isNone_iff_eq_none] at hnot

/-- From then on every status is recorded by one of the `steps`. -/
theorem Untouched.origin {b b' : Building} {steps : List Step} (h : Untouched cache b)
    (hfollows : Follows cache steps b b') {object : ObjectRef} {status : Status}
    (hfind : b'.statuses.find? object = some status) :
    ∃ s ∈ steps, s.Records object status.outcome := by
  rcases hfollows.origin object status hfind with hold | hrecorded
  · rw [h.find?_eq_none] at hold
    cases hold
  · exact hrecorded

theorem holdOrphans_untouched (cache : Cache) :
    Untouched cache (holdOrphans cache (addIngresses cache)) := by
  have hstart := addIngresses_follows cache
  obtain ⟨orphans, heq, hcontains⟩ :=
    foldl_holdOrphan cache.gatewayHosts.toList (addIngresses cache)
  rw [holdOrphans, heq]
  -- the passes over ingresses neither record nor merge anything
  constructor
  · exact hstart.lookups .empty
  · intro object
    rw [Bool.eq_false_iff]
    intro h
    obtain ⟨status, hfind⟩ := OrderedMap.contains_eq_true_iff.mp h
    rcases hstart.origin object status hfind with hfind | ⟨s, hs, -⟩
    · cases hfind
    · cases hs
  · intro i
    rw [Bool.eq_false_iff]
    intro h
    rcases (hstart.merged i).mp h with h | h
    · cases h
    · cases h
  · intro i
    rw [hcontains, hstart.orphans]
    constructor
    · rintro (⟨h, -⟩ | ⟨host, hmem, hnone⟩)
      · cases h
      · exact ⟨host, OrderedMap.find?_eq_some_of_mem hmem, hnone⟩
    · rintro ⟨host, hfound, hnone⟩
      exact .inr ⟨host, OrderedMap.mem_of_find?_eq_some hfound, hnone⟩

/-- Before orphans are recorded, the objects with a status are those that are `Examined`. -/
theorem contains_buildAll (object : ObjectRef) :
    (buildAll cache).statuses.contains object ↔ Examined cache object := by
  have hstart := holdOrphans_untouched cache
  have hall := buildAll_follows hstart.lookups
  constructor
  · intro h
    obtain ⟨status, hfind⟩ := OrderedMap.contains_eq_true_iff.mp h
    obtain ⟨s, hs, hrecords⟩ := hstart.origin hall hfind
    exact (records_of_mem_allSteps hs hrecords).1
  · intro h
    obtain ⟨s, hs, hsettled⟩ := settled_of_examined h
    exact hall.settled s hs object hsettled

/-- Before orphans are recorded, no status is that of an orphan. -/
theorem kind_buildAll {object : ObjectRef} {status : Status}
    (h : (buildAll cache).statuses.find? object = some status) :
    status.outcome.kind ≠ .orphaned := by
  have hstart := holdOrphans_untouched cache
  obtain ⟨s, hs, hrecords⟩ := hstart.origin (buildAll_follows hstart.lookups) h
  exact (records_of_mem_allSteps hs hrecords).2

/-- The hosts that are still held for orphans are those that are no roots and that no walk
enters. -/
theorem orphans_buildAll (i : Identity) :
    (buildAll cache).orphans.contains i ↔
      ∃ host, cache.gatewayHosts.find? i = some host ∧ host.virtualHost = none ∧
        ¬ Visited cache i := by
  have hstart := holdOrphans_untouched cache
  rw [(buildAll_follows hstart.lookups).orphans, hstart.orphans]
  constructor
  · rintro ⟨⟨host, hfound, hnone⟩, hreach⟩
    exact ⟨host, hfound, hnone, fun h => hreach ((reach_mem_allSteps hfound hnone).mpr h)⟩
  · rintro ⟨host, hfound, hnone, hvisited⟩
    exact ⟨⟨host, hfound, hnone⟩, fun h => hvisited ((reach_mem_allSteps hfound hnone).mp h)⟩

/-- The merged service routes are those of the domain names with a finished root. -/
theorem merged_buildAll {i : Identity} {r : ServiceRoute}
    (hfound : cache.serviceRoutes.find? i = some r) :
    (buildAll cache).merged.contains i ↔ Finished cache r.domain := by
  have hstart := holdOrphans_untouched cache
  rw [(buildAll_follows hstart.lookups).merged, hstart.merged, merge_mem_allSteps hfound]
  simp

/-! ### Orphans -/

/-- `orphanSteps cache b` are the records of the orphans of the build `b`. -/
def orphanSteps (cache : Cache) (b : Building) : List Step :=
  (b.orphans.keys.filter cache.gatewayHosts.contains).map
      (fun i => .settle (hostRef i) .orphanedHost) ++
    (cache.serviceRoutes.toList.filter fun p => !b.merged.contains p.1).map
      fun p => .settle ⟨p.1, .serviceRoute⟩ (.orphanedRoute p.2.fqdn)

theorem recordOrphans_follows (b : Building) (hb : b.lookups.Sound cache) :
    Follows cache (orphanSteps cache b) b (b.recordOrphans cache) := by
  have hhosts := Follows.foldl (fun b i _ => Building.settle_follows (hostRef i) .orphanedHost "" b)
    (b.orphans.keys.filter cache.gatewayHosts.contains) b hb
  have hroutes := Follows.foldl (fun b (p : Identity × ServiceRoute) _ =>
    Building.settle_follows ⟨p.1, .serviceRoute⟩ (.orphanedRoute p.2.fqdn) p.2.fqdn b)
    (cache.serviceRoutes.toList.filter fun p => !b.merged.contains p.1) _ (hhosts.lookups hb)
  rw [orphanSteps, List.map_eq_flatMap, List.map_eq_flatMap]
  exact hhosts.append hroutes

/-- `OrphanRecord cache b object` says that `object` is recorded as an orphan at the end of the
build `b`. -/
inductive OrphanRecord (cache : Cache) (b : Building) : ObjectRef → Prop
  /-- A host that is held for one. -/
  | host {i : Identity} {host : GatewayHost} (found : cache.gatewayHosts.find? i = some host)
      (held : b.orphans.contains i) : OrphanRecord cache b (hostRef i)
  /-- A service route that is not merged. -/
  | serviceRoute {i : Identity} {r : ServiceRoute} (found : cache.serviceRoutes.find? i = some r)
      (left : b.merged.contains i = false) : OrphanRecord cache b ⟨i, .serviceRoute⟩

theorem orphanRecord_of_records {b : Building} {s : Step} (hs : s ∈ orphanSteps cache b)
    {object : ObjectRef} {outcome : Outcome} (h : s.Records object outcome) :
    OrphanRecord cache b object ∧ outcome.kind = .orphaned := by
  rcases List.mem_append.mp hs with hs | hs
  · obtain ⟨i, hi, rfl⟩ := List.mem_map.mp hs
    obtain ⟨hheld, hcached⟩ := List.mem_filter.mp hi
    obtain ⟨host, hfound⟩ := OrderedMap.contains_eq_true_iff.mp hcached
    cases h
    exact ⟨.host hfound (OrderedMap.contains_iff_mem_keys.mpr hheld), rfl⟩
  · obtain ⟨⟨i, r⟩, hi, rfl⟩ := List.mem_map.mp hs
    obtain ⟨hmem, hopen⟩ := List.mem_filter.mp hi
    cases h
    exact ⟨.serviceRoute (OrderedMap.find?_eq_some_of_mem hmem) (by simpa using hopen), rfl⟩

theorem settled_of_orphanRecord {b : Building} {object : ObjectRef}
    (h : OrphanRecord cache b object) : ∃ s ∈ orphanSteps cache b, s.settled? = some object := by
  cases h with
  | host hfound hheld =>
    refine ⟨_, List.mem_append_left _ (List.mem_map_of_mem (List.mem_filter.mpr ⟨?_, ?_⟩)), rfl⟩
    · exact OrderedMap.contains_iff_mem_keys.mp hheld
    · exact OrderedMap.contains_eq_true_iff.mpr ⟨_, hfound⟩
  | @serviceRoute i r hfound hopen =>
    have hmem := OrderedMap.mem_of_find?_eq_some hfound
    refine ⟨.settle ⟨i, .serviceRoute⟩ (.orphanedRoute r.fqdn), List.mem_append_right _ ?_, rfl⟩
    exact List.mem_map.mpr ⟨(i, r), List.mem_filter.mpr ⟨hmem, by simp [hopen]⟩, rfl⟩

/-- No object that is `Examined` is recorded as an orphan. -/
theorem not_examined_of_orphanRecord {object : ObjectRef}
    (h : OrphanRecord cache (buildAll cache) object) : ¬ Examined cache object := by
  intro hexamined
  -- what the orphans lack is just what an examined object has
  cases h with
  | @host i host hfound hheld =>
    obtain ⟨host', hfound', hnone, hvisited⟩ := (orphans_buildAll i).mp hheld
    cases hexamined with
    | root hroot hsome =>
      rw [hfound'] at hroot
      cases hroot
      rw [hnone] at hsome
      cases hsome
    | host h => exact hvisited h
  | serviceRoute hfound hopen =>
    cases hexamined with
    | serviceRoute hfound' hfinished =>
      rw [(merged_buildAll hfound').mpr hfinished] at hopen
      cases hopen

/-- `IsOrphan statuses object` says that the status of an object is that of an orphan. -/
def IsOrphan (statuses : Ledger Status) (object : ObjectRef) : Prop :=
  ∃ status, statuses.find? object = some status ∧ status.outcome.kind = .orphaned

/-- An object ends as an orphan if and only if it is recorded as one. -/
theorem isOrphan_build_iff {object : ObjectRef} :
    IsOrphan (Graph.build cache).statuses object ↔ OrphanRecord cache (buildAll cache) object := by
  have hstart := holdOrphans_untouched cache
  have hsound := (buildAll_follows hstart.lookups).lookups hstart.lookups
  have hrecord := recordOrphans_follows (buildAll cache) hsound
  change IsOrphan ((buildAll cache).recordOrphans cache).statuses object ↔ _
  constructor
  · rintro ⟨status, hfind, hkind⟩
    -- what was recorded before is no orphan, and the last steps record orphans only
    rcases hrecord.origin object status hfind with hfind | ⟨s, hs, hrecords⟩
    · exact absurd hkind (kind_buildAll hfind)
    · exact (orphanRecord_of_records hs hrecords).1
  · intro h
    obtain ⟨s, hs, hsettled⟩ := settled_of_orphanRecord h
    obtain ⟨status, hfind⟩ := OrderedMap.contains_eq_true_iff.mp (hrecord.settled s hs object hsettled)
    refine ⟨status, hfind, ?_⟩
    rcases hrecord.origin object status hfind with hold | ⟨s', hs', hrecords⟩
    -- an examined object keeps its status and is none of the orphans
    · have hexamined := (contains_buildAll object).mp
        (OrderedMap.contains_eq_true_iff.mpr ⟨status, hold⟩)
      exact absurd hexamined (not_examined_of_orphanRecord h)
    · exact (orphanRecord_of_records hs' hrecords).2

/-- The objects with a status are those that are examined and those recorded as orphans. -/
theorem contains_build_iff {object : ObjectRef} :
    (Graph.build cache).statuses.contains object ↔
      Examined cache object ∨ OrphanRecord cache (buildAll cache) object := by
  have hstart := holdOrphans_untouched cache
  have hsound := (buildAll_follows hstart.lookups).lookups hstart.lookups
  have hrecord := recordOrphans_follows (buildAll cache) hsound
  change ((buildAll cache).recordOrphans cache).statuses.contains object ↔ _
  constructor
  · intro h
    obtain ⟨status, hfind⟩ := OrderedMap.contains_eq_true_iff.mp h
    -- each status is either from before the orphans or one of theirs
    rcases hrecord.origin object status hfind with hold | ⟨s, hs, hrecords⟩
    · exact .inl ((contains_buildAll object).mp
        (OrderedMap.contains_eq_true_iff.mpr ⟨status, hold⟩))
    · exact .inr (orphanRecord_of_records hs hrecords).1
  · rintro (h | h)
    · exact hrecord.contains ((contains_buildAll object).mpr h)
    · obtain ⟨s, hs, hsettled⟩ := settled_of_orphanRecord h
      exact hrecord.settled s hs object hsettled

/-! ### The statuses of a graph -/

/-- `IsCached cache object` says that a host or a service route is in the cache. -/
def IsCached (cache : Cache) (object : ObjectRef) : Bool :=
  match object.kind with
  | .gatewayHost => cache.gatewayHosts.contains object.identity
  | .serviceRoute => cache.serviceRoutes.contains object.identity

/-- Every host that a walk enters is in the cache. -/
theorem Visited.cached {i : Identity} (h : Visited cache i) : cache.gatewayHosts.contains i := by
  cases h with
  | routes accepted serves enters =>
    exact (enters.isChain accepted.found).cached _
      (List.mem_of_getLast? (enters.isChain accepted.found).last)
  | forwarding accepted forwards enters =>
    exact (enters.isChain accepted.found).cached _
      (List.mem_of_getLast? (enters.isChain accepted.found).last)

/-- The objects that are examined or recorded as orphans are those of the cache. -/
theorem examined_or_orphanRecord_iff {object : ObjectRef} :
    Examined cache object ∨ OrphanRecord cache (buildAll cache) object ↔ IsCached cache object := by
  constructor
  · -- whatever gets a status is found in the cache first
    rintro (h | h)
    · cases h with
      | root found root => exact OrderedMap.contains_eq_true_iff.mpr ⟨_, found⟩
      | host visited => exact visited.cached
      | serviceRoute found finished => exact OrderedMap.contains_eq_true_iff.mpr ⟨_, found⟩
    · cases h with
      | host found held => exact OrderedMap.contains_eq_true_iff.mpr ⟨_, found⟩
      | serviceRoute found left => exact OrderedMap.contains_eq_true_iff.mpr ⟨_, found⟩
  · -- a host is a root, or it is entered, or it is still held
    intro h
    obtain ⟨i, kind⟩ := object
    cases kind with
    | gatewayHost =>
      obtain ⟨host, hfound⟩ := OrderedMap.contains_eq_true_iff.mp h
      by_cases hroot : host.virtualHost.isSome
      · exact .inl (.root hfound hroot)
      · by_cases hvisited : Visited cache i
        · exact .inl (.host hvisited)
        · refine .inr (.host hfound ((orphans_buildAll i).mpr ⟨host, hfound, ?_, hvisited⟩))
          simpa using hroot
    | serviceRoute =>
      obtain ⟨r, hfound⟩ := OrderedMap.contains_eq_true_iff.mp h
      by_cases hfinished : Finished cache r.domain
      · exact .inl (.serviceRoute hfound hfinished)
      · refine .inr (.serviceRoute hfound ?_)
        rw [Bool.eq_false_iff]
        exact fun hmerged => hfinished ((merged_buildAll hfound).mp hmerged)

/-- **One status for every object.** Every host and every service route of the cache has one status,
and no other object has any.  A host is an orphan if and only if it is no root and no walk enters
it, and a service route if and only if no root of its domain name is walked to its end. -/
theorem build_statuses (cache : Cache) :
    (∀ object, (Graph.build cache).statuses.keys.count object
      = if IsCached cache object then 1 else 0) ∧
    (∀ i host, cache.gatewayHosts.find? i = some host →
      (IsOrphan (Graph.build cache).statuses (hostRef i) ↔
        host.virtualHost = none ∧ ¬ Visited cache i)) ∧
    ∀ i r, cache.serviceRoutes.find? i = some r →
      (IsOrphan (Graph.build cache).statuses ⟨i, .serviceRoute⟩ ↔ ¬ Finished cache r.domain) := by
  refine ⟨fun object => ?_, fun i host hfound => ?_, fun i r hfound => ?_⟩
  · rw [OrderedMap.count_keys]
    simp only [contains_build_iff, examined_or_orphanRecord_iff]
  · rw [isOrphan_build_iff]
    constructor
    · intro h
      cases h with
      | host hfound' hheld =>
        obtain ⟨host', hfound', hnone, hvisited⟩ := (orphans_buildAll i).mp hheld
        rw [hfound] at hfound'
        cases hfound'
        exact ⟨hnone, hvisited⟩
    · rintro ⟨hnone, hvisited⟩
      exact .host hfound ((orphans_buildAll i).mpr ⟨host, hfound, hnone, hvisited⟩)
  · rw [isOrphan_build_iff]
    constructor
    · intro h
      cases h with
      | serviceRoute hfound' hopen =>
        intro hfinished
        rw [(merged_buildAll hfound).mpr hfinished] at hopen
        cases hopen
    · intro hfinished
      refine .serviceRoute hfound ?_
      rw [Bool.eq_false_iff]
      exact fun hmerged => hfinished ((merged_buildAll hfound).mp hmerged)

end GatewayCompiler.Build
