import GatewayCompiler.Proofs.Statuses

/-!
# Hosts that a root leaves alone

The walk of a root works on the two hosts of the domain name of the root.  When no other root has
this name, the hosts are what the ingresses have made of them until the root is served, and they stay
what the root has made of them.

## Main definitions

* `Building.hostsAt` — the two hosts of a name.
* `buildBefore` — the build when a root is served.

## Main statements

* `Building.takeAll_hostsAt_of_ne` — a walk leaves the hosts of other names alone.
* `buildAll_hostsAt` — the hosts of an accepted root.
* `buildAll_hostsAt_of_unaccepted` — the hosts of a name without an accepted root.
-/

namespace GatewayCompiler.Build

variable {engine : Pattern.Engine} {cache : Cache}

namespace Building

/-- `b.hostsAt name` are the hosts of a name, in plain text and over TLS.  Two builds are compared
name by name through it. -/
def hostsAt (name : String) (b : Building) : Option VirtualHost × Option SecureHost :=
  (b.plain.find? name, b.secure.find? name)

theorem hostsAt_onPlainHost_of_ne {name other : String} (change : VirtualHost → VirtualHost)
    (b : Building) (hne : other ≠ name) :
    (b.onPlainHost name change).hostsAt other = b.hostsAt other := by
  unfold hostsAt onPlainHost
  rw [OrderedMap.find?_insert_of_ne _ _ hne]

theorem hostsAt_onSecureHost_of_ne {name other : String} (change : SecureHost → SecureHost)
    (b : Building) (hne : other ≠ name) :
    (b.onSecureHost name change).hostsAt other = b.hostsAt other := by
  unfold hostsAt onSecureHost
  rw [OrderedMap.find?_insert_of_ne _ _ hne]

/-- Reporting problems changes nothing but the `statuses`. -/
theorem report_eq (object : ObjectRef) (problems : List Problem) (host : String) (b : Building) :
    ∃ statuses, b.report object problems host = { b with statuses } := by
  induction problems generalizing b with
  | nil => exact ⟨b.statuses, rfl⟩
  | cons problem rest ih =>
    obtain ⟨statuses, heq⟩ := ih (b.settle object (.invalid problem) host)
    exact ⟨statuses, heq⟩

theorem report_hostsAt (name : String) (object : ObjectRef) (problems : List Problem)
    (host : String) (b : Building) :
    (b.report object problems host).hostsAt name = b.hostsAt name := by
  obtain ⟨statuses, heq⟩ := report_eq object problems host b
  rw [heq]
  rfl

/-! ### Walks of other roots -/

theorem attach_hostsAt_of_ne {place : Place} {name : String} (hne : name ≠ place.host)
    (route : Route) (permitInsecure : Bool) (b : Building) :
    (b.attach place route permitInsecure).hostsAt name = b.hostsAt name := by
  unfold attach
  simp only
  split
  · rw [hostsAt_onSecureHost_of_ne _ _ hne, hostsAt_onPlainHost_of_ne _ _ hne]
  · rw [hostsAt_onPlainHost_of_ne _ _ hne]

/-- A step for another host leaves the hosts of `name` alone. -/
theorem take_hostsAt_of_ne {place : Place} {name : String} (hne : name ≠ place.host)
    (b : Building) (s : Step) : (b.take cache place s).hostsAt name = b.hostsAt name := by
  cases s with
  | serve object spec conditions =>
    change (b.serve cache place object spec conditions).hostsAt name = _
    unfold serve
    -- the route is made before it is attached, and making it changes no host
    have hlook : (b.look (buildRoute cache object.identity.space spec conditions)).2.hostsAt name
        = b.hostsAt name := rfl
    generalize b.look (buildRoute cache object.identity.space spec conditions) = found at hlook ⊢
    obtain ⟨⟨route, problems⟩, b'⟩ := found
    change b'.hostsAt name = b.hostsAt name at hlook
    cases route with
    | none =>
      simp only
      rw [report_hostsAt, hlook]
    | some route =>
      simp only
      rw [attach_hostsAt_of_ne hne, report_hostsAt, hlook]
  | forward owner services =>
    change (b.forward cache place owner services).hostsAt name = _
    unfold forward
    have hhost : ∀ clusters : List Cluster, ((b.look (forwardClusters cache owner.space
        services)).2.onSecureHost place.host fun h =>
          { h with host := { h.host with tcpProxy := some clusters } }).hostsAt name
        = b.hostsAt name := fun _ => hostsAt_onSecureHost_of_ne _ _ hne
    simp only
    split
    · rfl
    · exact hhost _
  | reach target => rfl
  | merge identity => rfl
  | settle object outcome => rfl

theorem takeAll_hostsAt_of_ne {place : Place} {name : String} (hne : name ≠ place.host)
    (steps : List Step) (b : Building) :
    (b.takeAll cache place steps).hostsAt name = b.hostsAt name := by
  induction steps generalizing b with
  | nil => rfl
  | cons s rest ih =>
    change ((b.take cache place s).takeAll cache place rest).hostsAt name = _
    rw [ih, take_hostsAt_of_ne hne]

theorem openRoot_hostsAt_of_ne {root : Identity} {host : GatewayHost} {v : VirtualHostSpec}
    {name : String} (hne : name ≠ v.domain) (mode : TlsMode) (b : Building) :
    (b.openRoot cache root host v mode).hostsAt name = b.hostsAt name := by
  unfold openRoot
  cases mode with
  -- each mode opens hosts of the root's own name only, so no other name is touched
  | off =>
    simp only
    rw [hostsAt_onPlainHost_of_ne _ _ hne, report_hostsAt]
  | terminate certificate minVersion =>
    simp only
    split
    · rw [hostsAt_onSecureHost_of_ne _ _ hne, report_hostsAt]
    · rw [hostsAt_onPlainHost_of_ne _ _ hne, hostsAt_onSecureHost_of_ne _ _ hne, report_hostsAt]
  | passthrough =>
    simp only
    split
    · rw [hostsAt_onSecureHost_of_ne _ _ hne]
    · rw [hostsAt_onPlainHost_of_ne _ _ hne, report_hostsAt, hostsAt_onSecureHost_of_ne _ _ hne]

/-- A root leaves the hosts of other domain names alone, whether it is accepted or not. -/
theorem addRoot_hostsAt_of_ne {name : String} (b : Building) (root : Identity × GatewayHost)
    (hne : ∀ v, root.2.virtualHost = some v → name ≠ v.domain) :
    (b.addRoot cache root).hostsAt name = b.hostsAt name := by
  unfold addRoot
  cases hv : root.2.virtualHost with
  | none => rfl
  | some v =>
    simp only
    split
    · rfl
    · split
      · rfl
      · rw [enterRoot_eq, takeAll_hostsAt_of_ne (hne v hv), openRoot_hostsAt_of_ne (hne v hv)]
        rfl

/-- Reporting the roots that share a domain name changes nothing but the `statuses`. -/
theorem reportSharers_eq (b : Building) (root : Identity × GatewayHost) :
    ∃ statuses, b.reportSharers cache root = { b with statuses } := by
  unfold reportSharers
  split
  · exact ⟨b.statuses, rfl⟩
  · simp only
    split
    · exact ⟨_, rfl⟩
    · exact ⟨b.statuses, rfl⟩

/-- Recording orphans changes nothing but the `statuses`. -/
theorem recordOrphans_eq (cache : Cache) (b : Building) :
    ∃ statuses, b.recordOrphans cache = { b with statuses } := by
  unfold recordOrphans
  have hhosts : ∃ statuses, (b.orphans.keys.filter cache.gatewayHosts.contains).foldl
      recordOrphanHost b = { b with statuses } := by
    refine List.foldlRecOn (motive := fun b' : Building => ∃ statuses, b' = { b with statuses })
      _ _ ⟨b.statuses, rfl⟩ ?_
    rintro _ ⟨statuses, rfl⟩ i _
    exact ⟨_, rfl⟩
  refine List.foldlRecOn (motive := fun b' : Building => ∃ statuses, b' = { b with statuses })
    _ _ hhosts ?_
  rintro _ ⟨statuses, rfl⟩ p _
  exact ⟨_, rfl⟩

theorem recordOrphans_hostsAt (cache : Cache) (name : String) (b : Building) :
    (b.recordOrphans cache).hostsAt name = b.hostsAt name := by
  obtain ⟨statuses, heq⟩ := recordOrphans_eq cache b
  rw [heq]
  rfl

end Building

/-- Sorting the hosts changes nothing but the `statuses` and the hosts held for orphans. -/
theorem sortHosts_eq (cache : Cache) (b : Building) :
    ∃ statuses orphans, sortHosts cache b = { b with statuses, orphans } := by
  obtain ⟨orphans, heq, -⟩ := foldl_holdOrphan cache.gatewayHosts.toList b
  unfold sortHosts holdOrphans
  rw [heq]
  refine List.foldlRecOn (motive := fun b' : Building =>
    ∃ statuses orphans, b' = { b with statuses, orphans }) _ _ ⟨b.statuses, orphans, rfl⟩ ?_
  rintro _ ⟨statuses, orphans, rfl⟩ root _
  obtain ⟨statuses', heq⟩ := @Building.reportSharers_eq cache { b with statuses, orphans } root
  exact ⟨statuses', orphans, heq⟩

/-! ### The hosts of a root -/

/-- `buildBefore cache root` is the build when `root` is served: all roots before it are done. -/
def buildBefore [Pattern.Engine] (cache : Cache) (root : Identity) : Building :=
  (cache.gatewayHosts.toList.takeWhile fun p => p.1 ≠ root).foldl (Building.addRoot cache)
    (sortHosts cache (addIngresses cache))

/-- Only the root of a domain name touches its hosts: the others of `roots` have other names. -/
theorem foldl_addRoot_hostsAt {root : Identity} {name : String}
    (halone : sharers cache.gatewayHosts name = [root]) {roots : List (Identity × GatewayHost)}
    (hsub : roots ⊆ cache.gatewayHosts.toList) (hroot : ∀ p ∈ roots, p.1 ≠ root) (b : Building) :
    (roots.foldl (Building.addRoot cache) b).hostsAt name = b.hostsAt name := by
  refine List.foldlRecOn (motive := fun b' : Building => b'.hostsAt name = b.hostsAt name) _ _ rfl ?_
  intro b' hsame p hp
  rw [Building.addRoot_hostsAt_of_ne, hsame]
  intro v hv heq
  have hmem : p.1 ∈ sharers cache.gatewayHosts name :=
    mem_sharers.mpr ⟨p.2, v, OrderedMap.find?_eq_some_of_mem (hsub hp), hv, heq.symm⟩
  rw [halone, List.mem_singleton] at hmem
  exact hroot p hp hmem

/-- The roots of a cache are those before a given one, which `buildBefore` has done, the given one
and those after it. -/
theorem split_at_root {root : Identity} {host : GatewayHost}
    (hfound : cache.gatewayHosts.find? root = some host) :
    ∃ after, cache.gatewayHosts.toList =
        (cache.gatewayHosts.toList.takeWhile fun p => p.1 ≠ root) ++ (root, host) :: after ∧
      ∀ p ∈ after, p.1 ≠ root := by
  obtain ⟨before, after, hsplit⟩ := List.append_of_mem (OrderedMap.mem_of_find?_eq_some hfound)
  have hnodup := cache.gatewayHosts.keys_nodup
  rw [OrderedMap.keys, hsplit, List.map_append, List.map_cons] at hnodup
  -- no host comes twice, so that the one in the middle is the only one of its name
  obtain ⟨-, hafter, hdisjoint⟩ := List.nodup_append.mp hnodup
  have hbefore : ∀ p ∈ before, p.1 ≠ root := fun p hp =>
    hdisjoint p.1 (List.mem_map_of_mem hp) root List.mem_cons_self
  refine ⟨after, ?_, fun p hp heq => ?_⟩
  · rw [hsplit, List.takeWhile_append_of_pos (by simpa using hbefore), List.takeWhile_cons_of_neg]
    · simp
    · simp
  · have hkey : p.1 ∈ after.map Prod.fst := List.mem_map_of_mem hp
    rw [heq] at hkey
    exact (List.nodup_cons.mp hafter).1 hkey

/-- Only what the cache says is remembered when the first root is served. -/
theorem sortHosts_sound (cache : Cache) :
    (sortHosts cache (addIngresses cache)).lookups.Sound cache := by
  have hstart := (holdOrphans_untouched cache).lookups
  exact (sortHosts_follows hstart).lookups hstart

/-- Only what the cache says is remembered when a root is served, by `sortHosts_sound` and the walks
before. -/
theorem buildBefore_sound [Pattern.Engine] (cache : Cache) (root : Identity) :
    (buildBefore cache root).lookups.Sound cache := by
  exact (addRoots_follows _ (sortHosts_sound cache)).lookups (sortHosts_sound cache)

/-- The build of a cache with one host, which is a root in order. -/
theorem buildAll_of_single {root : Identity} {host : GatewayHost} {v : VirtualHostSpec}
    {mode : TlsMode} (hsingle : cache.gatewayHosts.toList = [(root, host)])
    (h : Accepted cache root host v mode) :
    buildAll cache = (((sortHosts cache (addIngresses cache)).look
        (checkRoot cache root v).run).2.openRoot cache root host v mode).takeAll cache
          ⟨v.domain, mode.enforcesTls⟩ (walkSteps cache root host v.domain mode) := by
  rw [buildAll, hsingle, List.foldl_cons, List.foldl_nil,
    Building.addRoot_eq h (sortHosts_sound cache)]

/-- The build of a cache with two hosts, which are roots in order. -/
theorem buildAll_of_pair {root root' : Identity} {host host' : GatewayHost}
    {v v' : VirtualHostSpec} {mode mode' : TlsMode}
    (hpair : cache.gatewayHosts.toList = [(root, host), (root', host')])
    (h : Accepted cache root host v mode) (h' : Accepted cache root' host' v' mode') :
    buildAll cache =
      ((((((sortHosts cache (addIngresses cache)).look (checkRoot cache root v).run).2.openRoot
        cache root host v mode).takeAll cache ⟨v.domain, mode.enforcesTls⟩
          (walkSteps cache root host v.domain mode)).look (checkRoot cache root' v').run).2.openRoot
        cache root' host' v' mode').takeAll cache ⟨v'.domain, mode'.enforcesTls⟩
          (walkSteps cache root' host' v'.domain mode') := by
  have hsorted := sortHosts_sound cache
  have hnext := (Building.addRoot_follows _ (root, host) hsorted).lookups hsorted
  rw [buildAll, hpair, List.foldl_cons, List.foldl_cons, List.foldl_nil,
    Building.addRoot_eq h' hnext, Building.addRoot_eq h hsorted]

/-- The hosts of an accepted root: until the root is served they are those of the ingresses, and
then they stay as they are, so that `addRoot` alone decides about them. -/
theorem buildAll_hostsAt {root : Identity} {host : GatewayHost} {v : VirtualHostSpec}
    {mode : TlsMode} (h : Accepted cache root host v mode) :
    (buildBefore cache root).hostsAt v.domain = (addIngresses cache).hostsAt v.domain ∧
    (buildAll cache).hostsAt v.domain
      = ((buildBefore cache root).addRoot cache (root, host)).hostsAt v.domain := by
  -- the roots in front of this one and those behind it, none of which is accepted for the name
  obtain ⟨after, hsplit, hafter⟩ := split_at_root h.found
  have hsub : (cache.gatewayHosts.toList.takeWhile fun p => p.1 ≠ root) ⊆
      cache.gatewayHosts.toList := (List.takeWhile_prefix _).subset
  have hafterSub : after ⊆ cache.gatewayHosts.toList := by
    rw [hsplit]
    exact fun p hp => List.mem_append_right _ (List.mem_cons_of_mem _ hp)
  have hne : ∀ p ∈ cache.gatewayHosts.toList.takeWhile fun p => p.1 ≠ root, p.1 ≠ root := by
    intro p hp
    simpa using List.all_eq_true.mp List.all_takeWhile p hp
  constructor
  · obtain ⟨statuses, orphans, hsort⟩ := sortHosts_eq cache (addIngresses cache)
    rw [buildBefore, foldl_addRoot_hostsAt h.alone hsub hne, hsort]
    rfl
  · rw [buildAll, hsplit, List.foldl_append, List.foldl_cons,
      foldl_addRoot_hostsAt h.alone hafterSub hafter]
    rfl

/-! ### Names without an accepted root -/

/-- `Unaccepted cache name` says that no root of a domain name is accepted. -/
def Unaccepted (cache : Cache) (name : String) : Prop :=
  ∀ root host v mode, Accepted cache root host v mode → v.domain ≠ name

theorem Building.addRoot_hostsAt_of_unaccepted {name : String} (hnone : Unaccepted cache name)
    {root : Identity} {host : GatewayHost} (hfound : cache.gatewayHosts.find? root = some host)
    {b : Building} (hb : b.lookups.Sound cache) :
    (b.addRoot cache (root, host)).hostsAt name = b.hostsAt name := by
  have hadded := Building.addRoot_added hfound hb
  generalize b.addRoot cache (root, host) = b' at hadded ⊢
  cases hadded with
  | noRoot virtualHost => rfl
  | shared virtualHost many => rfl
  | refused virtualHost alone mode sound => rfl
  | @served v mode lookups accepted sound =>
    have hne : name ≠ v.domain := (hnone root host v mode accepted).symm
    rw [takeAll_hostsAt_of_ne hne, openRoot_hostsAt_of_ne hne]
    rfl

/-- The hosts of a name that is `Unaccepted` stay as the ingresses have left them. -/
theorem buildAll_hostsAt_of_unaccepted [Pattern.Engine] {name : String} (hnone : Unaccepted cache name) :
    (buildAll cache).hostsAt name = (addIngresses cache).hostsAt name := by
  obtain ⟨statuses, orphans, hsort⟩ := sortHosts_eq cache (addIngresses cache)
  have hstart : (sortHosts cache (addIngresses cache)).hostsAt name
      = (addIngresses cache).hostsAt name := by
    rw [hsort]
    rfl
  -- over the roots: none of them is accepted for the name, so each leaves its hosts alone
  refine (List.foldlRecOn (motive := fun b : Building =>
    b.lookups.Sound cache ∧ b.hostsAt name = (addIngresses cache).hostsAt name) _ _
      ⟨sortHosts_sound cache, hstart⟩ ?_).2
  rintro b ⟨hsound, hsame⟩ ⟨root, host⟩ hmem
  have hfound := OrderedMap.find?_eq_some_of_mem hmem
  exact ⟨(Building.addRoot_follows b (root, host) hsound).lookups hsound,
    (Building.addRoot_hostsAt_of_unaccepted hnone hfound hsound).trans hsame⟩

end GatewayCompiler.Build
