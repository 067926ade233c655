import GatewayCompiler.Proofs.SecureHosts

/-!
# Roots that share a domain name

Roots that claim the same domain name are all refused.  They are reported before any root is served,
and the first status counts, so that no walk that comes to one of them later changes it.  None of them
is accepted, which leaves the service routes of the name without a root to merge them, and the hosts of
the name as the ingresses have made them.

## Main definitions

* `IsRootOf` — a host is a root of a domain name.
* `Collision` — what becomes of a domain name that several roots claim.

## Main statements

* `find?_statuses_of_mem_sharers` — the status of a root that shares its domain name.
* `unaccepted_of_shared` — none of these roots is accepted.
* `build_collision` — two roots of a domain name are enough.
-/

namespace GatewayCompiler.Build

section

variable {engine : Pattern.Engine} {cache : Cache} {fqdn : String} {i j : Identity}

/-! ### The roots of a domain name -/

/-- `IsRootOf cache fqdn i` says that the host `i` is a root of the domain name `fqdn`. -/
def IsRootOf (cache : Cache) (fqdn : String) (i : Identity) : Prop :=
  ∃ host v, cache.gatewayHosts.find? i = some host ∧ host.virtualHost = some v ∧ v.domain = fqdn

/-- The roots of a domain name come in the order of the hosts, that of their identities. -/
theorem sharers_increasing (hosts : OrderedMap Identity GatewayHost) (fqdn : String) :
    (sharers hosts fqdn).Pairwise fun i j => compare i j = .lt := by
  have hself : ∀ (p : Identity × GatewayHost) (i : Identity),
      (do let v ← p.2.virtualHost; if v.domain = fqdn then some p.1 else none) = some i → p.1 = i := by
    intro p i hsome
    obtain ⟨v, -, hv⟩ := Option.bind_eq_some_iff.mp hsome
    split at hv
    · exact Option.some.inj hv
    · cases hv
  unfold sharers
  rw [List.pairwise_filterMap]
  refine hosts.increasing.imp fun {p q} hlt i hi j hj => ?_
  rw [← hself p i hi, ← hself q j hj]
  exact hlt

theorem one_lt_length_sharers {hosts : OrderedMap Identity GatewayHost}
    (hi : i ∈ sharers hosts fqdn) (hj : j ∈ sharers hosts fqdn) (hne : i ≠ j) :
    1 < (sharers hosts fqdn).length := by
  match hlist : sharers hosts fqdn with
  | [] => simp [hlist] at hi
  | [k] =>
    rw [hlist, List.mem_singleton] at hi hj
    exact absurd (hi.trans hj.symm) hne
  | k :: l :: rest => simp

/-- No root of a domain name with several of them is accepted. -/
theorem unaccepted_of_shared (hmany : 1 < (sharers cache.gatewayHosts fqdn).length) :
    Unaccepted cache fqdn := by
  rintro root host v mode accepted rfl
  rw [accepted.alone] at hmany
  exact Nat.lt_irrefl 1 hmany

/-! ### Statuses -/

/-- The only report on a root before roots are served names all roots of its domain name. -/
theorem mem_sharerSteps_iff {root : Identity} {host : GatewayHost} {s : Step} :
    s ∈ sharerSteps cache (root, host) ↔ ∃ v, host.virtualHost = some v ∧
      1 < (sharers cache.gatewayHosts v.domain).length ∧
      s = .reject root (.duplicateFqdn v.domain (sharers cache.gatewayHosts v.domain)) := by
  unfold sharerSteps
  cases hv : host.virtualHost with
  | none => simp
  | some v =>
    by_cases hmany : 1 < (sharers cache.gatewayHosts v.domain).length
    · simp [hmany]
    · simp [hmany]

/-- Before any root is served, the status of a root that shares its domain name names all of
them. -/
theorem find?_sortHosts_of_mem_sharers (hi : i ∈ sharers cache.gatewayHosts fqdn)
    (hmany : 1 < (sharers cache.gatewayHosts fqdn).length) :
    ∃ status, (sortHosts cache (addIngresses cache)).statuses.find? (hostRef i) = some status ∧
      status.outcome = .invalid (.duplicateFqdn fqdn (sharers cache.gatewayHosts fqdn)) := by
  have hstart := holdOrphans_untouched cache
  have hsort := sortHosts_follows hstart.lookups
  obtain ⟨host, v, hfound, hv, hdomain⟩ := mem_sharers.mp hi
  have hreport : .reject i (.duplicateFqdn fqdn (sharers cache.gatewayHosts fqdn))
      ∈ cache.gatewayHosts.toList.flatMap (sharerSteps cache) := by
    refine List.mem_flatMap.mpr ⟨(i, host), OrderedMap.mem_of_find?_eq_some hfound, ?_⟩
    subst hdomain
    exact mem_sharerSteps_iff.mpr ⟨v, hv, hmany, rfl⟩
  obtain ⟨status, hfind⟩ := OrderedMap.contains_eq_true_iff.mp (hsort.settled _ hreport _ rfl)
  refine ⟨status, hfind, ?_⟩
  -- a report has recorded it, and this can only be the own one
  obtain ⟨s, hs, hrecords⟩ := hstart.origin hsort hfind
  obtain ⟨⟨root, other⟩, hmem, hs⟩ := List.mem_flatMap.mp hs
  obtain ⟨w, hw, -, rfl⟩ := mem_sharerSteps_iff.mp hs
  have hother := OrderedMap.find?_eq_some_of_mem hmem
  generalize houtcome : status.outcome = outcome at hrecords
  cases hrecords
  rw [hfound] at hother
  cases hother
  rw [hv] at hw
  cases hw
  rw [← hdomain]

/-- Nothing that is done for roots or orphans changes this status, as the first one counts. -/
theorem find?_statuses_of_mem_sharers (hi : i ∈ sharers cache.gatewayHosts fqdn)
    (hmany : 1 < (sharers cache.gatewayHosts fqdn).length) :
    ∃ status, (Graph.build cache).statuses.find? (hostRef i) = some status ∧
      status.outcome = .invalid (.duplicateFqdn fqdn (sharers cache.gatewayHosts fqdn)) := by
  obtain ⟨status, hfind, houtcome⟩ := find?_sortHosts_of_mem_sharers hi hmany
  have hroots := addRoots_follows cache.gatewayHosts.toList (sortHosts_sound cache)
  have horphans := recordOrphans_follows (buildAll cache) (hroots.lookups (sortHosts_sound cache))
  exact ⟨status, horphans.kept _ _ (hroots.kept _ _ hfind), houtcome⟩

/-- A service route of a domain name without an accepted root ends as an orphan. -/
theorem isOrphan_of_unaccepted {r : ServiceRoute} (hnone : Unaccepted cache r.domain)
    (hfound : cache.serviceRoutes.find? i = some r) :
    IsOrphan (Graph.build cache).statuses ⟨i, .serviceRoute⟩ := by
  rw [isOrphan_build_iff]
  refine .serviceRoute hfound ?_
  rw [Bool.eq_false_iff]
  intro hmerged
  -- only a root that is accepted merges service routes
  obtain ⟨root, host, v, mode, accepted, -, hdomain, -⟩ := (merged_buildAll hfound).mp hmerged
  exact hnone root host v mode accepted hdomain

/-! ### Hosts -/

/-- Without an accepted root and without ingresses for it there is no host of a name, on either
listener. -/
theorem find?_hosts_of_unaccepted (hnone : Unaccepted cache fqdn)
    (hunclaimed : ∀ ingress ∈ cache.ingresses.toList, ¬ Claims cache fqdn ingress) :
    ∀ l ∈ (Graph.build cache).listeners, l.hosts.find? fqdn = none := by
  have hhosts : ((buildAll cache).recordOrphans cache).hostsAt fqdn = (none, none) := by
    rw [Building.recordOrphans_hostsAt, buildAll_hostsAt_of_unaccepted hnone,
      addIngresses_hostsAt hunclaimed]
  obtain ⟨hplain, hsecure⟩ := Prod.mk.inj hhosts
  intro l hl
  rcases Graph.hosts_of_mem_listeners hl with heq | heq
  · rw [heq, OrderedMap.find?_filter, OrderedMap.find?_map, hplain]
    rfl
  · rw [heq, OrderedMap.find?_filter, OrderedMap.find?_map, hsecure]
    rfl

/-! ### Collisions -/

/-- `Collision cache fqdn members` says what becomes of a domain name that several roots, the
`members`, claim. -/
structure Collision [Pattern.Engine] (cache : Cache) (fqdn : String) (members : List Identity) :
    Prop where
  /-- The members come in the order of identities. -/
  ordered : members.Pairwise fun i j => compare i j = .lt
  /-- They are the roots of the name. -/
  roots : ∀ i, i ∈ members ↔ IsRootOf cache fqdn i
  /-- Each of them ends with a description that names all of them. -/
  invalid : ∀ i ∈ members, ∃ status,
    (Graph.build cache).statuses.find? (hostRef i) = some status ∧
    status.outcome.kind = .invalid ∧
    status.outcome.description =
      s!"fqdn {Text.quoted fqdn} is used in multiple GatewayHosts: "
        ++ ", ".intercalate (members.map Identity.text)
  /-- No service route of the name is merged. -/
  orphans : ∀ i r, cache.serviceRoutes.find? i = some r → r.domain = fqdn →
    IsOrphan (Graph.build cache).statuses ⟨i, .serviceRoute⟩
  /-- Unless an ingress serves it, no listener has a host of the name. -/
  unserved : (∀ ingress ∈ cache.ingresses.toList, ¬ Claims cache fqdn ingress) →
    ∀ l ∈ (Graph.build cache).listeners, l.hosts.find? fqdn = none

/-- **Shared domain names.** As soon as two roots claim a domain name, none of its roots is
served. -/
theorem build_collision (hi : IsRootOf cache fqdn i) (hj : IsRootOf cache fqdn j) (hne : i ≠ j) :
    ∃ members, Collision cache fqdn members := by
  -- two roots share the name, so none of those that share it is accepted
  have hmany : 1 < (sharers cache.gatewayHosts fqdn).length :=
    one_lt_length_sharers (mem_sharers.mpr hi) (mem_sharers.mpr hj) hne
  have hnone := unaccepted_of_shared hmany
  refine ⟨sharers cache.gatewayHosts fqdn, {
    ordered := sharers_increasing cache.gatewayHosts fqdn
    roots := fun _ => mem_sharers
    invalid := ?_
    orphans := ?_
    unserved := find?_hosts_of_unaccepted hnone }⟩
  · intro k hk
    obtain ⟨status, hfind, houtcome⟩ := find?_statuses_of_mem_sharers hk hmany
    refine ⟨status, hfind, ?_, ?_⟩
    · rw [houtcome]
      rfl
    · rw [houtcome]
      rfl
  · rintro k r hfound rfl
    exact isOrphan_of_unaccepted hnone hfound

end

/-! ### Two roots with a third one that leads to them -/

/-- A root of the domain name `fqdn` without routes of its own. -/
def bareRoot (name fqdn : String) (tcpProxy : Option TcpProxySpec) : GatewayHost where
  metadata := { name := some name, space := some "default" }
  virtualHost := some ⟨fqdn, some ⟨none, none, true⟩, []⟩
  routes := []
  tcpProxy := tcpProxy

/-- Two roots have the same domain name but for a blank, and a third one, which is served before them,
forwards to the first of them. -/
def twinCache : Cache where
  gatewayHosts := .ofList [
    (⟨"default", "front"⟩, bareRoot "front" "front.test" (some ⟨[], some ⟨"one", none⟩⟩)),
    (⟨"default", "one"⟩, bareRoot "one" "twin.test"
      (some ⟨[⟨"db", 5432, 1, none, none, none, none, none, []⟩], none⟩)),
    (⟨"default", "two"⟩, bareRoot "two" " twin.test" none)]
  services := .ofList [(⟨"default", "db"⟩,
    ⟨{ name := some "db", space := some "default" }, none, none, [⟨none, 5432⟩]⟩)]

theorem twin_collision :
    IsRootOf twinCache "twin.test" ⟨"default", "one"⟩ ∧
    IsRootOf twinCache "twin.test" ⟨"default", "two"⟩ ∧
    ∃ members, Collision twinCache "twin.test" members := by
  have hone : IsRootOf twinCache "twin.test" ⟨"default", "one"⟩ := ⟨_, _, rfl, rfl, rfl⟩
  have htwo : IsRootOf twinCache "twin.test" ⟨"default", "two"⟩ := ⟨_, _, rfl, rfl, by decide⟩
  exact ⟨hone, htwo, build_collision hone htwo (by decide)⟩

end GatewayCompiler.Build
