import GatewayCompiler.Proofs.History
import GatewayCompiler.Proofs.Routes
import Mathlib.Data.List.Cycle

/-!
# Cycles of route delegations

A host is reported for a cycle when one of its routes delegates back to a host on the way.  The
report counts only if it is the first status of the host, and the same host is entered on many ways,
under many roots.  Both directions are read off the history of the statuses: a report of a cycle is
recorded by a host that closes it, and a host is not found in order before the hosts that it
delegates to have their statuses.  So the first member of a cycle that gets a status is not found in
order.

## Main definitions

* `ClosingWay` — a way from a root to a host, and on to a host that is on the way already.

## Main statements

* `History.cycles` — every report of a cycle comes from a host that closes it.
* `History.member_invalid` — a cycle with a status has a member that is not in order.
* `build_cycles` — the reports of cycles in a graph are sound and complete.
-/

namespace GatewayCompiler.Build

section

variable {engine : Pattern.Engine} {cache : Cache}

/-! ### Reports of cycles -/

/-- `ClosesAt cache object names` says that `object` is a host that is entered and closes a cycle,
and `names` is the way that it names. -/
def ClosesAt [Pattern.Engine] (cache : Cache) (object : ObjectRef) (names : List Identity) : Prop :=
  ∃ root g, Entered cache root g ∧ object = hostRef g.owner ∧
    ∃ route ∈ g.routes, Closes cache.gatewayHosts g route names

/-- Every report of a cycle comes from a host that closes it: no other record may have such an
outcome. -/
theorem History.cycles {statuses statuses' : Ledger Status} (h : History cache statuses statuses')
    (hstart : ∀ object, OrderedMap.contains statuses object = false) {object : ObjectRef}
    {status : Status} {names : List Identity}
    (hfind : OrderedMap.find? statuses' object = some status)
    (hcycle : status.outcome = .invalid (.routeCycle names)) : ClosesAt cache object names := by
  induction h with
  | refl =>
    have hnone := hstart object
    rw [OrderedMap.contains, hfind] at hnone
    cases hnone
  | @tail between _ _ hrecorded ih =>
    cases hrecorded with
    | @intro other outcome host may =>
      rcases Ledger.of_find?_record hfind with hold | ⟨rfl, rfl⟩
      · exact ih hold
      · -- the report is the new status, so that the record is the one of a cycle
        change outcome = _ at hcycle
        cases may with
        | problem plain =>
          cases hcycle
          exact absurd rfl (plain names)
        | @cycle root g route way entered own closes =>
          cases hcycle
          exact ⟨root, g, entered, rfl, route, own, closes⟩
        | accept entered behind => cases hcycle
        | serviceRoute noCycle => exact absurd hcycle (noCycle names)

/-- `ClosingWay cache owner chain target` says that the way `chain` closes a cycle at `owner`: it
comes from a root that is served, meets no host twice before it ends at one of its own, and each of
its hosts delegates to the next one. -/
structure ClosingWay (cache : Cache) (owner : Identity) (chain : List Identity)
    (target : Identity) : Prop where
  /-- It begins with a root that is served. -/
  root : ∃ root host v mode, chain.head? = some root ∧ Accepted cache root host v mode
  /-- It comes to the host. -/
  last : chain.getLast? = some owner
  /-- No host comes twice. -/
  nodup : chain.Nodup
  /-- It goes back to one of its hosts. -/
  back : target ∈ chain
  /-- Each host delegates to the next one. -/
  links : (chain ++ [target]).IsChain (RouteLink cache.gatewayHosts)

/-- The way that a host names when it closes a cycle is a `ClosingWay`, with the host at which it
ends at the end. -/
theorem ClosesAt.closingWay {object : ObjectRef} {names : List Identity}
    (h : ClosesAt cache object names) : ∃ owner chain target, object = hostRef owner ∧
      names = chain ++ [target] ∧ ClosingWay cache owner chain target := by
  -- the frame at which the way closes knows its chain and the conditions on it
  obtain ⟨root, g, entered, rfl, route, hroute, d, child, hdelegate, hfound, hseen, rfl⟩ := h
  have hchain := entered.isChain
  have hlink := entered.link hroute hdelegate (OrderedMap.contains_eq_true_iff.mpr ⟨child, hfound⟩)
  refine ⟨g.owner, g.chain, d.target g.owner.space, rfl, rfl, ?_⟩
  constructor
  · obtain ⟨host, v, mode, accepted, -, -⟩ := entered
    exact ⟨root, host, v, mode, hchain.head, accepted⟩
  · exact hchain.last
  · exact hchain.nodup
  · exact hseen
  · refine List.isChain_append.mpr ⟨entered.links, .singleton _, fun i hi j hj => ?_⟩
    rw [hchain.last] at hi
    cases hi
    cases hj
    exact hlink

/-! ### Members of cycles -/

/-- `Fails statuses i` says that the host `i` ends with a problem. -/
def Fails (statuses : Ledger Status) (i : Identity) : Prop :=
  ∃ status, OrderedMap.find? statuses (hostRef i) = some status ∧ status.outcome.kind = .invalid

/-- When every one of some hosts delegates to one of them, the first of them that gets a status gets
it for a problem.  A host that completes has reached its delegate before, and that delegate had its
status already. -/
theorem Recorded.member_invalid {statuses statuses' : Ledger Status}
    (h : Recorded cache statuses statuses') {member : Identity → Prop}
    (hlinks : ∀ i, member i → ∃ j, member j ∧ RouteLink cache.gatewayHosts i j)
    (hopen : ∀ i, member i → ¬ OrderedMap.contains statuses (hostRef i)) :
    (∀ i, member i → ¬ OrderedMap.contains statuses' (hostRef i)) ∨
      ∃ i, member i ∧ Fails statuses' i := by
  obtain ⟨host, may⟩ := h
  rename_i object outcome
  by_cases hobject : ∃ i, member i ∧ object = hostRef i
  · obtain ⟨i, hi, rfl⟩ := hobject
    have hinvalid : outcome.kind = .invalid := by
      cases may with
      | problem plain => rfl
      | cycle entered own closes => rfl
      | accept entered behind =>
        -- the next member would have a status already
        obtain ⟨j, hj, hlink⟩ := hlinks _ hi
        exact absurd (behind j hlink) (hopen j hj)
    refine .inr ⟨i, hi, ⟨outcome, host⟩, ?_, hinvalid⟩
    have hnone : OrderedMap.find? statuses (hostRef i) = none := by
      have hnot := hopen i hi
      rwa [OrderedMap.contains, Option.isSome_iff_ne_none, not_not] at hnot
    rw [Ledger.find?_record_self, hnone]
    rfl
  · refine .inl fun i hi hthere => ?_
    rcases Ledger.contains_record.mp hthere with heq | hthere
    · exact hobject ⟨i, hi, heq.symm⟩
    · exact hopen i hi hthere

/-- When every one of some hosts delegates to one of them, none of them has a status or one has it
for a problem.  The induction is on the history, with `Recorded.member_invalid` for every root. -/
theorem History.member_invalid {statuses statuses' : Ledger Status}
    (h : History cache statuses statuses') {member : Identity → Prop}
    (hlinks : ∀ i, member i → ∃ j, member j ∧ RouteLink cache.gatewayHosts i j)
    (hopen : ∀ i, member i → ¬ OrderedMap.contains statuses (hostRef i)) :
    (∀ i, member i → ¬ OrderedMap.contains statuses' (hostRef i)) ∨
      ∃ i, member i ∧ Fails statuses' i := by
  induction h with
  | refl => exact .inl hopen
  | tail _ hrecorded ih =>
    rcases ih with hnone | ⟨i, hi, status, hfind, hkind⟩
    · exact hrecorded.member_invalid hlinks hnone
    · exact .inr ⟨i, hi, status, History.find? (.single hrecorded) hfind, hkind⟩

/-- Every member of a cycle has a link to a member, as a `Cycle` has no last one. -/
theorem exists_link_of_mem_cycle {r : Identity → Identity → Prop} {cycle : Cycle Identity}
    (hcycle : cycle.Chain r) {i : Identity} (hi : i ∈ cycle) : ∃ j ∈ cycle, r i j := by
  induction cycle using Cycle.induction_on with
  | nil => exact absurd hi (Cycle.notMem_nil i)
  | cons a l _ =>
    rw [Cycle.chain_coe_cons] at hcycle
    obtain ⟨before, after, hsplit⟩ := List.append_of_mem (Cycle.mem_coe_iff.mp hi)
    rw [← List.cons_append, hsplit, List.append_assoc, List.cons_append] at hcycle
    -- the next member stands behind, or the cycle begins again
    cases after with
    | nil => exact ⟨a, by simp, (List.isChain_append_cons_cons.mp hcycle).2.1⟩
    | cons j rest =>
      refine ⟨j, Cycle.mem_coe_iff.mpr ?_, (List.isChain_append_cons_cons.mp hcycle).2.1⟩
      rw [hsplit]
      exact List.mem_append_right _ (List.mem_cons_of_mem _ List.mem_cons_self)

/-! ### The statuses of a graph -/

/-- Statuses that are no orphans come from before orphans are recorded, that is, from `buildAll`. -/
theorem find?_buildAll {object : ObjectRef} {status : Status}
    (hfind : (Graph.build cache).statuses.find? object = some status)
    (hkind : status.outcome.kind ≠ .orphaned) :
    (buildAll cache).statuses.find? object = some status := by
  have hstart := holdOrphans_untouched cache
  have hsound := (buildAll_follows hstart.lookups).lookups hstart.lookups
  rcases (recordOrphans_follows (buildAll cache) hsound).origin object status hfind with
    hold | ⟨s, hs, hrecords⟩
  · exact hold
  · exact absurd (orphanRecord_of_records hs hrecords).2 hkind

/-- **Reports of cycles are sound and complete**, when no host forwards connections.  An object with
a report is a host that closes a cycle, and the report names the way from a root over the host to
one of the hosts before.  Of the members of a cycle one is not in order, if any of them is
entered. -/
theorem build_cycles
    (noForwarding : ∀ i host, cache.gatewayHosts.find? i = some host → host.tcpProxy = none) :
    (∀ object status names, (Graph.build cache).statuses.find? object = some status →
      status.outcome = .invalid (.routeCycle names) →
      ∃ owner chain target, object = hostRef owner ∧ names = chain ++ [target] ∧
        ClosingWay cache owner chain target) ∧
    ∀ cycle : Cycle Identity, cycle.Chain (RouteLink cache.gatewayHosts) →
      (∃ root g, Entered cache root g ∧ g.owner ∈ cycle) →
      ∃ i ∈ cycle, Fails (Graph.build cache).statuses i := by
  have hstart := holdOrphans_untouched cache
  have hsound := (buildAll_follows hstart.lookups).lookups hstart.lookups
  -- the history gives the cause of every cycle that was reported, and an end to every cycle
  have hhistory := buildAll_history noForwarding
  constructor
  · intro object status names hfind hcycle
    have hfind := find?_buildAll hfind (by simp [hcycle, Outcome.kind])
    exact (hhistory.cycles hstart.statuses hfind hcycle).closingWay
  · rintro cycle hcycle ⟨root, g, entered, hmember⟩
    have hmembers : (∀ i, i ∈ cycle → ¬ (buildAll cache).statuses.contains (hostRef i)) ∨
        ∃ i, i ∈ cycle ∧ Fails (buildAll cache).statuses i :=
      hhistory.member_invalid (fun i hi => exists_link_of_mem_cycle hcycle hi)
        fun i _ => by simp [hstart.statuses]
    rcases hmembers with hnone | ⟨i, hi, status, hfind, hkind⟩
    · exact absurd ((contains_buildAll _).mpr (.host entered.visited)) (hnone _ hmember)
    · have hkept := (recordOrphans_follows (buildAll cache) hsound).kept _ _ hfind
      exact ⟨i, hi, status, hkept, hkind⟩

end

/-! ### Two hosts that delegate to each other -/

/-- A host without services of its own, which leaves its paths to the delegate `target`. -/
def leadingHost (name : String) (target : Delegate) : GatewayHost where
  metadata := { name := some name, space := some "team" }
  virtualHost := none
  routes := [{ apiRoute with delegate := some target }]
  tcpProxy := none

/-- A cache with a root that delegates to one of two hosts, which delegate to each other. -/
def circleCache : Cache where
  gatewayHosts := .ofList [(⟨"default", "site"⟩, siteHost),
    (⟨"team", "api"⟩, leadingHost "api" ⟨"users", none⟩),
    (⟨"team", "users"⟩, leadingHost "users" ⟨"api", none⟩)]

/-- The two hosts of `circleCache` that delegate to each other. -/
def circle : List Identity := [⟨"team", "api"⟩, ⟨"team", "users"⟩]

/-- One of the two hosts is not in order. -/
theorem circle_cycles :
    (∀ i host, circleCache.gatewayHosts.find? i = some host → host.tcpProxy = none) ∧
    ∃ i ∈ (circle : Cycle Identity), Fails (Graph.build circleCache).statuses i := by
  have noForwarding : ∀ i host, circleCache.gatewayHosts.find? i = some host →
      host.tcpProxy = none := by
    intro i host hfind
    have hall : ∀ p ∈ circleCache.gatewayHosts.toList, p.2.tcpProxy = none := by
      rintro p (_ | ⟨_, _ | ⟨_, _ | ⟨_, ⟨⟩⟩⟩⟩)
      · rfl
      · rfl
      · rfl
    exact hall _ (OrderedMap.mem_of_find?_eq_some hfind)
  have accepted : Accepted circleCache ⟨"default", "site"⟩ siteHost ⟨"site.test", none, []⟩ .off :=
    ⟨rfl, rfl, rfl, rfl⟩
  have runs : Runs circleCache.gatewayHosts (.ofRoot ⟨"default", "site"⟩ siteHost) []
      { apiRoute with delegate := some ⟨"api", some "team"⟩ } := by
    refine .of_split rfl (by simp) (not_stops (by decide) (by decide) ?_)
    rintro _ child ⟨⟩ hfound
    cases hfound
    exact ⟨by decide, rfl⟩
  have hfound : circleCache.gatewayHosts.find? ⟨"team", "api"⟩
      = some (leadingHost "api" ⟨"users", none⟩) := rfl
  have enters := Delegates.intro runs rfl hfound
  have entered : Entered circleCache ⟨"default", "site"⟩ _ :=
    ⟨siteHost, _, .off, accepted, rfl, .single enters⟩
  have hcycle : (circle : Cycle Identity).Chain (RouteLink circleCache.gatewayHosts) := by
    rw [circle, Cycle.chain_coe_cons]
    refine .cons_cons ?_ (.cons_cons ?_ (.singleton _))
    · exact ⟨_, rfl, _, List.mem_singleton_self _, ⟨"users", none⟩, rfl, rfl, rfl⟩
    · exact ⟨_, rfl, _, List.mem_singleton_self _, ⟨"api", none⟩, rfl, rfl, rfl⟩
  exact ⟨noForwarding, (build_cycles noForwarding).2 _ hcycle
    ⟨_, _, entered, Cycle.mem_coe_iff.mpr List.mem_cons_self⟩⟩

end GatewayCompiler.Build
