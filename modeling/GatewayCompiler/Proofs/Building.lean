import GatewayCompiler.Build.Graph
import GatewayCompiler.Proofs.Cluster

/-!
# What steps do to a build

Besides its hosts a build keeps what it has looked up, the statuses, and the marks on the objects
that were reached or merged.  A list of steps is followed from one build to another when all of
these have changed as the steps say, and the operations on hosts do not show there.

## Main definitions

* `Step.Records`, `Step.settled?` — the outcomes that a step may record, and those that it does.
* `Follows` — the statuses and the marks change as a list of steps says.
* `Building.ForwardedTo` — a cluster that connections are forwarded to.

## Main statements

* `Building.take_follows`, `Building.takeAll_follows` — a build that does steps follows them.
-/

namespace GatewayCompiler.Build

variable {cache : Cache} {b b' b'' : Building}

/-- `s.Records object outcome` says that the step `s` may record `outcome` for `object`.  A step
that serves a route may record any problem with it, and a step that forwards connections records how
this ends. -/
inductive Step.Records : Step → ObjectRef → Outcome → Prop
  /-- Something is wrong with a route. -/
  | problem {object : ObjectRef} {route : RouteSpec} {conditions : List Condition}
      (problem : Problem) : Records (.serve object route conditions) object (.invalid problem)
  /-- Connections cannot be forwarded. -/
  | stuck {owner : Identity} {services : List ServiceSpec} (problem : Problem) :
      Records (.forward owner services) (hostRef owner) (.invalid problem)
  /-- Connections are forwarded. -/
  | forwarded {owner : Identity} {services : List ServiceSpec} :
      Records (.forward owner services) (hostRef owner) (.valid .gatewayHost)
  /-- The outcome is known. -/
  | settled {object : ObjectRef} {outcome : Outcome} :
      Records (.settle object outcome) object outcome

/-- `s.settled?` is the object that has an outcome for certain after the step `s`, if there is
one. -/
def Step.settled? : Step → Option ObjectRef
  | .forward owner _ => some (hostRef owner)
  | .settle object _ => some object
  | .serve .. | .reach _ | .merge _ => none

/-- `Follows cache steps b b'` says that the statuses and the marks change from the build `b` to the
build `b'` as `steps` say.  A status that is there is kept, a new one is recorded by one of the
steps, and what is remembered stays sound. -/
structure Follows (cache : Cache) (steps : List Step) (b b' : Building) : Prop where
  /-- What is remembered stays sound. -/
  lookups : b.lookups.Sound cache → b'.lookups.Sound cache
  /-- The first status of an object stays. -/
  kept : ∀ object status, b.statuses.find? object = some status →
    b'.statuses.find? object = some status
  /-- Every step that records an outcome in any case has done so. -/
  settled : ∀ s ∈ steps, ∀ object, s.settled? = some object → b'.statuses.contains object
  /-- Every new status is recorded by a step. -/
  origin : ∀ object status, b'.statuses.find? object = some status →
    b.statuses.find? object = some status ∨ ∃ s ∈ steps, s.Records object status.outcome
  /-- The hosts held for orphans are those that no step has reached. -/
  orphans : ∀ identity,
    b'.orphans.contains identity ↔ b.orphans.contains identity ∧ .reach identity ∉ steps
  /-- The merged service routes are those that a step has merged. -/
  merged : ∀ identity,
    b'.merged.contains identity ↔ b.merged.contains identity ∨ .merge identity ∈ steps

namespace Follows

variable {steps steps' : List Step}

theorem refl (b : Building) : Follows cache [] b b where
  lookups := id
  kept := fun _ _ => id
  settled := by simp
  origin := fun _ _ h => .inl h
  orphans := by simp
  merged := by simp

/-- An object with a status keeps one. -/
theorem contains (h : Follows cache steps b b') {object : ObjectRef}
    (hobject : b.statuses.contains object) : b'.statuses.contains object := by
  obtain ⟨status, hfind⟩ := OrderedMap.contains_eq_true_iff.mp hobject
  exact OrderedMap.contains_eq_true_iff.mpr ⟨status, h.kept object status hfind⟩

/-- Steps may be followed one list after the other. -/
theorem append (h : Follows cache steps b b') (h' : Follows cache steps' b' b'') :
    Follows cache (steps ++ steps') b b'' where
  lookups := h'.lookups ∘ h.lookups
  kept := fun object status => h'.kept object status ∘ h.kept object status
  settled := by
    intro s hs object hobject
    -- what is settled by the first steps stays settled
    rcases List.mem_append.mp hs with hs | hs
    · exact h'.contains (h.settled s hs object hobject)
    · exact h'.settled s hs object hobject
  origin := by
    intro object status hfind
    rcases h'.origin object status hfind with hfind | ⟨s, hs, hrecords⟩
    · rcases h.origin object status hfind with hfind | ⟨s, hs, hrecords⟩
      · exact .inl hfind
      · exact .inr ⟨s, List.mem_append_left _ hs, hrecords⟩
    · exact .inr ⟨s, List.mem_append_right _ hs, hrecords⟩
  orphans := by
    intro identity
    rw [h'.orphans, h.orphans, List.mem_append, not_or, and_assoc]
  merged := by
    intro identity
    rw [h'.merged, h.merged, List.mem_append, or_assoc]

/-- An object without a status in `b` stays without one, as long as none of `steps` records an
outcome of it. -/
theorem find?_eq_none (h : Follows cache steps b b') {object : ObjectRef}
    (hnone : b.statuses.find? object = none)
    (hsteps : ∀ s ∈ steps, ∀ outcome, ¬ s.Records object outcome) :
    b'.statuses.find? object = none := by
  cases hfind : b'.statuses.find? object with
  | none => rfl
  | some status =>
    rcases h.origin object status hfind with hold | ⟨s, hs, hrecords⟩
    · rw [hnone] at hold
      cases hold
    · exact absurd hrecords (hsteps s hs _)

/-- The list `steps` may be replaced by `steps'` if both reach and merge the same objects, and
`steps'` record no less and settle no more. -/
theorem replace (h : Follows cache steps b b')
    (hrecords : ∀ s ∈ steps, ∀ object outcome, s.Records object outcome →
      ∃ s' ∈ steps', s'.Records object outcome)
    (hsettled : ∀ s' ∈ steps', ∀ object, s'.settled? = some object →
      ∃ s ∈ steps, s.settled? = some object)
    (hreach : ∀ identity, .reach identity ∈ steps ↔ .reach identity ∈ steps')
    (hmerge : ∀ identity, .merge identity ∈ steps ↔ .merge identity ∈ steps') :
    Follows cache steps' b b' where
  lookups := h.lookups
  kept := h.kept
  settled := by
    intro s' hs' object hobject
    obtain ⟨s, hs, hsome⟩ := hsettled s' hs' object hobject
    exact h.settled s hs object hsome
  origin := by
    intro object status hfind
    -- a status is old or recorded, and a record of `steps` is one of `steps'` by `hrecords`
    rcases h.origin object status hfind with hold | ⟨s, hs, hrecorded⟩
    · exact .inl hold
    · exact .inr (hrecords s hs object status.outcome hrecorded)
  orphans := by
    intro identity
    rw [h.orphans, hreach]
  merged := by
    intro identity
    rw [h.merged, hmerge]

/-- A fold over `items` follows the steps of all rounds if each round follows its own. -/
theorem foldl {α : Type} {op : Building → α → Building} {stepsOf : α → List Step}
    (h : ∀ b a, b.lookups.Sound cache → Follows cache (stepsOf a) b (op b a)) (items : List α) :
    ∀ b : Building, b.lookups.Sound cache →
      Follows cache (items.flatMap stepsOf) b (items.foldl op b) := by
  induction items with
  | nil => exact fun b _ => refl b
  | cons a rest ih =>
    intro b hb
    have ha := h b a hb
    rw [List.flatMap_cons]
    exact ha.append (ih (op b a) (ha.lookups hb))

end Follows

namespace Building

/-! ### Single operations -/

/-- A change of a host in plain text is no step. -/
theorem onPlainHost_follows (name : String) (change : VirtualHost → VirtualHost) (b : Building) :
    Follows cache [] b (b.onPlainHost name change) := { Follows.refl b with }

/-- A change of a host over TLS is no step. -/
theorem onSecureHost_follows (name : String) (change : SecureHost → SecureHost) (b : Building) :
    Follows cache [] b (b.onSecureHost name change) := { Follows.refl b with }

/-- A look-up is no step either: it only adds to what is remembered. -/
theorem look_follows {α : Type} {action : StateM Lookups α} {Q : α → Prop}
    (h : Answers cache action Q) (b : Building) : Follows cache [] b (b.look action).2 where
  lookups := fun hsound => (h b.lookups hsound).2
  kept := fun _ _ => id
  settled := by simp
  origin := fun _ _ h => .inl h
  orphans := fun _ => (and_iff_left List.not_mem_nil).symm
  merged := fun _ => (or_iff_left List.not_mem_nil).symm

/-- The answer to a look-up in a sound build is as described by `Q`. -/
theorem look_answer {α : Type} {action : StateM Lookups α} {Q : α → Prop}
    (h : Answers cache action Q) {b : Building} (hb : b.lookups.Sound cache) : Q (b.look action).1 :=
  (h b.lookups hb).1

theorem settle_follows (object : ObjectRef) (outcome : Outcome) (host : String) (b : Building) :
    Follows cache [.settle object outcome] b (b.settle object outcome host) where
  lookups := id
  -- the first status of an object counts
  kept := by
    intro other status hfind
    by_cases heq : other = object
    · subst heq
      rw [settle, Ledger.find?_record_self, hfind]
      rfl
    · rw [settle, Ledger.find?_record_of_ne _ _ heq]
      exact hfind
  settled := by
    intro s hs other h
    rw [List.mem_singleton.mp hs] at h
    cases h
    exact Ledger.contains_record.mpr (.inl rfl)
  origin := by
    intro other status hfind
    by_cases heq : other = object
    · subst heq
      rw [settle, Ledger.find?_record_self] at hfind
      cases hold : b.statuses.find? other with
      | some old =>
        rw [hold] at hfind
        exact .inl hfind
      | none =>
        rw [hold] at hfind
        cases hfind
        exact .inr ⟨_, List.mem_singleton_self _, .settled⟩
    · rw [settle, Ledger.find?_record_of_ne _ _ heq] at hfind
      exact .inl hfind
  orphans := by simp [settle]
  merged := by simp [settle]

theorem reach_follows (target : Identity) (b : Building) :
    Follows cache [.reach target] b (b.reach target) where
  lookups := id
  kept := fun _ _ => id
  settled := by simp [Step.settled?]
  origin := fun _ _ h => .inl h
  orphans := by
    intro identity
    rw [reach, OrderedMap.contains_erase, List.mem_singleton, Step.reach.injEq, and_comm]
  merged := by simp [reach]

theorem merge_follows (identity : Identity) (b : Building) :
    Follows cache [.merge identity] b (b.merge identity) where
  lookups := id
  kept := fun _ _ => id
  settled := by simp [Step.settled?]
  origin := fun _ _ h => .inl h
  orphans := by simp [merge]
  merged := by
    intro other
    rw [merge, OrderedMap.contains_insert, List.mem_singleton, Step.merge.injEq, or_comm]

/-- `reportSteps object problems` are the steps that report each of `problems` with `object`. -/
def reportSteps (object : ObjectRef) (problems : List Problem) : List Step :=
  problems.map fun problem => .settle object (.invalid problem)

/-- To report problems is to settle an object once for each of them; the first outcome counts. -/
theorem report_follows (object : ObjectRef) (problems : List Problem) (host : String)
    (b : Building) : Follows cache (reportSteps object problems) b (b.report object problems host) := by
  induction problems generalizing b with
  | nil => exact .refl b
  | cons problem rest ih =>
    exact (settle_follows object (.invalid problem) host b).append (ih _)

/-! ### Steps of a walk -/

theorem attach_follows (place : Place) (route : Route) (permitInsecure : Bool) (b : Building) :
    Follows cache [] b (b.attach place route permitInsecure) := by
  unfold attach
  simp only
  split
  · exact (onPlainHost_follows ..).append (onSecureHost_follows ..)
  · exact onPlainHost_follows ..

/-- A step that serves a route records what is reported while it is done, whatever the problems
are. -/
theorem follows_serve_of_report {object : ObjectRef} {spec : RouteSpec}
    {conditions : List Condition} {problems : List Problem}
    (h : Follows cache (reportSteps object problems) b b') :
    Follows cache [.serve object spec conditions] b b' := by
  refine h.replace ?_ ?_ ?_ ?_
  · intro s hs other outcome hrecords
    obtain ⟨problem, -, rfl⟩ := List.mem_map.mp hs
    cases hrecords
    exact ⟨_, List.mem_singleton_self _, .problem problem⟩
  · simp [Step.settled?]
  · simp [reportSteps]
  · simp [reportSteps]

/-- To serve a route is to look its clusters up, to report what is wrong and to attach the rest. -/
theorem serve_follows (place : Place) (object : ObjectRef) (spec : RouteSpec)
    (conditions : List Condition) (b : Building) :
    Follows cache [.serve object spec conditions] b (b.serve cache place object spec conditions) := by
  unfold serve
  have hlook : Follows cache [] b
      (b.look (buildRoute cache object.identity.space spec conditions)).2 :=
    look_follows (buildRoute_answers _ _ _) b
  generalize b.look (buildRoute cache object.identity.space spec conditions) = found at hlook ⊢
  obtain ⟨⟨route, problems⟩, b₁⟩ := found
  have hreport := hlook.append (report_follows object problems place.host b₁)
  -- without a route nothing is attached, and the problems are all that there is
  cases route with
  | none => exact follows_serve_of_report hreport
  | some route =>
    have hattach := hreport.append (attach_follows place route spec.permitInsecure _)
    rw [List.append_nil] at hattach
    exact follows_serve_of_report hattach

/-- `ForwardedTo cache space s c` says that connections are forwarded to the cluster `c` for the
service `s` of a namespace: `c` points at a port of `s`, and takes over nothing but the strategy. -/
def ForwardedTo (cache : Cache) (space : String) (s : ServiceSpec) (c : Cluster) : Prop :=
  ∃ resolved, PortOf cache ⟨space, s.name⟩ s.number resolved ∧
    c = { Cluster.ofBackend ⟨resolved.target, .tcp⟩ with strategy := .ofText s.strategy }

/-- Connections are forwarded to one cluster for each of `services`, if all of them have their
ports. -/
theorem forwardClusters_ports (space : String) (services : List ServiceSpec) :
    Answers cache (forwardClusters cache space services) fun result =>
      ∀ clusters, result = .ok clusters → List.Forall₂ (ForwardedTo cache space) services clusters := by
  induction services with
  | nil =>
    refine .pure ?_
    rintro clusters ⟨⟩
    exact .nil
  | cons s rest ih =>
    rw [forwardClusters]
    refine (lookupPort_answers _ _).bind fun found hfound => ?_
    cases h : findPort? cache ⟨space, s.name⟩ (.number s.number) with
    | none =>
      rw [h] at hfound
      subst hfound
      exact .pure (by rintro _ ⟨⟩)
    | some p =>
      rw [h] at hfound
      -- a port that is asked for by its number has this number
      obtain ⟨resolved, rfl, hof⟩ := hfound
      rw [findPort?_number h] at hof
      refine ih.bind fun result hresult => .pure ?_
      cases result with
      | error problem => rintro _ ⟨⟩
      | ok clusters =>
        rintro _ ⟨⟩
        exact .cons ⟨resolved, hof, rfl⟩ (hresult clusters rfl)

/-- Clusters that connections are forwarded to do not speak TLS, so that `ClusterOf` asks for no
secrets. -/
theorem ForwardedTo.clusterOf {space : String} {s : ServiceSpec} {c : Cluster}
    (h : ForwardedTo cache space s c) : ClusterOf cache space s c ∧ c.backend.transport = .tcp := by
  obtain ⟨resolved, hof, rfl⟩ := h
  exact ⟨⟨⟨resolved, hof, rfl⟩, by rintro ⟨⟩, fun _ => ⟨rfl, rfl⟩⟩, rfl⟩

/-- The step that forwards connections records the outcome that it comes to, and settles `owner` by
it. -/
theorem follows_forward_of_settle {owner : Identity} {services : List ServiceSpec}
    {outcome : Outcome} (h : Follows cache [.settle (hostRef owner) outcome] b b')
    (houtcome : (Step.forward owner services).Records (hostRef owner) outcome) :
    Follows cache [.forward owner services] b b' := by
  refine h.replace ?_ ?_ ?_ ?_
  · intro s hs other recorded hrecords
    rw [List.mem_singleton.mp hs] at hrecords
    cases hrecords
    exact ⟨_, List.mem_singleton_self _, houtcome⟩
  · simp [Step.settled?]
  · simp
  · simp

theorem forward_follows (place : Place) (owner : Identity) (services : List ServiceSpec)
    (b : Building) :
    Follows cache [.forward owner services] b (b.forward cache place owner services) := by
  unfold forward
  have hlook : Follows cache [] b (b.look (forwardClusters cache owner.space services)).2 :=
    look_follows (forwardClusters_ports _ _) b
  generalize b.look (forwardClusters cache owner.space services) = found at hlook ⊢
  obtain ⟨clusters, b₁⟩ := found
  -- a missing service settles the host with a problem, and otherwise it is in order
  cases clusters with
  | error problem =>
    have hsettle := hlook.append (settle_follows (hostRef owner) (.invalid problem) place.host b₁)
    exact follows_forward_of_settle hsettle (.stuck problem)
  | ok clusters =>
    have hhost := hlook.append (onSecureHost_follows place.host
      (fun h => { h with host := { h.host with tcpProxy := some clusters } }) b₁)
    have hsettle := hhost.append (settle_follows (hostRef owner) (.valid .gatewayHost) place.host _)
    exact follows_forward_of_settle hsettle .forwarded

/-- A build that does a step follows it: this is one case for each kind of step. -/
theorem take_follows (place : Place) (b : Building) (s : Step) :
    Follows cache [s] b (b.take cache place s) := by
  cases s with
  | serve object route conditions => exact serve_follows place object route conditions b
  | forward owner services => exact forward_follows place owner services b
  | reach target => exact reach_follows target b
  | merge identity => exact merge_follows identity b
  | settle object outcome => exact settle_follows object outcome place.host b

/-- Going on to the hosts `targets` marks them and records nothing. -/
theorem takeAll_reach_statuses (place : Place) (targets : List Identity) (b : Building) :
    (b.takeAll cache place (targets.map Step.reach)).statuses = b.statuses := by
  induction targets generalizing b with
  | nil => rfl
  | cons target rest ih => exact ih (b.reach target)

theorem takeAll_append (place : Place) (steps further : List Step) (b : Building) :
    b.takeAll cache place (steps ++ further)
      = (b.takeAll cache place steps).takeAll cache place further := List.foldl_append ..

/-- **A build that does the steps of a walk follows them.** What the walks of a cache ask for is
thereby all that can show in the statuses of a graph. -/
theorem takeAll_follows (place : Place) (steps : List Step) (b : Building) :
    Follows cache steps b (b.takeAll cache place steps) := by
  induction steps generalizing b with
  | nil => exact .refl b
  | cons s rest ih => exact (take_follows place b s).append (ih _)

end Building

end GatewayCompiler.Build
