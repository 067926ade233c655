import GatewayCompiler.Proofs.Cycles
import GatewayCompiler.Proofs.ForwardedHosts
import GatewayCompiler.Proofs.SharedDomains

/-!
# Roots that are not in order

A root is refused when it is its turn and its namespace, its domain name or its TLS settings are not in
order.  Its status is that of the refusal unless it has one already.  Routes are never delegated to a
root, but whole connections are: a root that is served before may hand its connections over to the
refused one, and the forwarding of the refused root, which has nothing to do with its check, then
decides.

## Main definitions

* `OutOfOrder` — what may be wrong with a root.
* `FirstEntry` — the first root whose forwarding enters a host.
* `Vouched` — a root that is found in order before its turn.

## Main statements

* `rootMode_error_iff` — the check of a root fails exactly if something is wrong with it.
* `exists_firstEntry` — when roots forward to a root before its turn, one of them is the first.
* `find?_build_of_firstEntry` — the status that another root gives a root.
* `refused_fails_iff` — a root with something wrong ends with a problem unless it is vouched for.
-/

namespace GatewayCompiler.Build

open Relation

section

variable {engine : Pattern.Engine} {cache : Cache} {root : Identity} {host : GatewayHost} {v : VirtualHostSpec}

/-! ### What may be wrong with a root -/

/-- `BadTls cache space tls` says that something is wrong with the TLS settings `tls` of an object
of a namespace.  There is a rule for each way in which they can be. -/
inductive BadTls (cache : Cache) (space : String) (tls : TlsSpec) : Prop
  /-- They name a secret and ask for connections to be passed on. -/
  | both {reference : String} (named : namedSecret? tls = some reference)
      (passthrough : tls.passthrough = true)
  /-- They do neither. -/
  | neither (nameless : namedSecret? tls = none) (passthrough : tls.passthrough = false)
  /-- The secret is missing, or it holds no certificate with its key. -/
  | missing {reference : String} (named : namedSecret? tls = some reference)
      (keypair : cache.keypair? (.ofReference reference space) = none)
  /-- The secret may not be used there. -/
  | forbidden {reference : String} (named : namedSecret? tls = some reference)
      (permits : ¬ cache.permits (.ofReference reference space) space)

/-- `OutOfOrder cache root v` says that something is wrong with a root, be it with its TLS settings
or not. -/
inductive OutOfOrder (cache : Cache) (root : Identity) (v : VirtualHostSpec) : Prop
  /-- It stands in a namespace for other things. -/
  | outside (space : ¬ cache.config.isRootNamespace root.space)
  /-- It has no domain name. -/
  | blank (domain : v.domain = "")
  /-- Its domain name has a star, and there are TLS settings. -/
  | wildcard (star : v.domain.toList.contains '*') (tls : v.tls.isSome)
  /-- Its TLS settings are wrong. -/
  | tls {tls : TlsSpec} (own : v.tls = some tls) (bad : BadTls cache root.space tls)

/-- The settings come to a problem exactly if they are bad: each rule for a mode excludes all ways in
which they can be. -/
theorem TlsResult.error_iff {space : String} {tls? : Option TlsSpec}
    {result : Except Problem TlsMode} (h : TlsResult cache space tls? result) :
    (∃ problem, result = .error problem) ↔ ∃ tls, tls? = some tls ∧ BadTls cache space tls := by
  cases h with
  | off => exact ⟨by rintro ⟨_, ⟨⟩⟩, by rintro ⟨_, ⟨⟩, _⟩⟩
  | both named passthrough =>
    exact iff_of_true ⟨_, rfl⟩ ⟨_, rfl, .both named passthrough⟩
  | neither nameless passthrough =>
    exact iff_of_true ⟨_, rfl⟩ ⟨_, rfl, .neither nameless passthrough⟩
  | missing named keypair => exact iff_of_true ⟨_, rfl⟩ ⟨_, rfl, .missing named keypair⟩
  | forbidden named permits => exact iff_of_true ⟨_, rfl⟩ ⟨_, rfl, .forbidden named permits⟩
  | passed nameless passthrough =>
    refine iff_of_false (by rintro ⟨_, ⟨⟩⟩) ?_
    rintro ⟨_, ⟨⟩, hbad⟩
    cases hbad with
    | both named => simp [nameless] at named
    | neither _ passthrough' => simp [passthrough] at passthrough'
    | missing named => simp [nameless] at named
    | forbidden named => simp [nameless] at named
  | terminated named passthrough keypair permits =>
    refine iff_of_false (by rintro ⟨_, ⟨⟩⟩) ?_
    rintro ⟨_, ⟨⟩, hbad⟩
    cases hbad with
    | both _ passthrough' => simp [passthrough] at passthrough'
    | neither nameless => simp [named] at nameless
    | missing named' keypair' =>
      -- the secret that is named is the one that was looked up
      rw [named] at named'
      cases named'
      rw [keypair] at keypair'
      cases keypair'
    | forbidden named' permits' =>
      rw [named] at named'
      cases named'
      exact permits' permits

/-- The check of a root fails exactly if it is `OutOfOrder`. -/
theorem rootMode_error_iff :
    (∃ problem, rootMode cache root v = .error problem) ↔ OutOfOrder cache root v := by
  have hresult := rootMode_result cache root v
  generalize rootMode cache root v = result at hresult ⊢
  cases hresult with
  | outside space => exact iff_of_true ⟨_, rfl⟩ (.outside space)
  | blank domain => exact iff_of_true ⟨_, rfl⟩ (.blank domain)
  | wildcard star => exact iff_of_true ⟨_, rfl⟩ (.wildcard star.1 star.2)
  | settled space domain star settings =>
    rw [settings.error_iff]
    constructor
    · rintro ⟨tls, own, bad⟩
      exact .tls own bad
    · intro hbad
      cases hbad with
      | outside space' => exact absurd space space'
      | blank domain' => exact absurd domain' domain
      | wildcard star' tls => exact absurd ⟨star', tls⟩ star
      | tls own bad => exact ⟨_, own, bad⟩

/-! ### Forwarding to a root -/

/-- `Forwarded cache root g` says that the forwarding of a root that is served enters a host with
`g`. -/
def Forwarded (cache : Cache) (root : Identity) (g : TcpFrame) : Prop :=
  ∃ host v mode, Accepted cache root host v mode ∧ mode.forwards host = true ∧
    TcpEnters cache.gatewayHosts (.ofRoot root host) g

/-- `FirstEntry cache i first g` says that the root `first` is the first one whose forwarding enters
the host `i`. -/
structure FirstEntry (cache : Cache) (i first : Identity) (g : TcpFrame) : Prop where
  /-- The forwarding enters the host. -/
  forwarded : Forwarded cache first g
  /-- It is this host. -/
  owner : g.owner = i
  /-- None of the roots before forwards to the host. -/
  earlier : ∀ other f, compare other first = .lt → Forwarded cache other f → f.owner ≠ i

/-- `Vouched cache root v` says that a root is found in order before it is its turn: the first of
the roots before it that forwards to it finds its forwarding in order. -/
def Vouched (cache : Cache) (root : Identity) (v : VirtualHostSpec) : Prop :=
  sharers cache.gatewayHosts v.domain = [root] ∧
    ∃ first g, compare first root = .lt ∧ FirstEntry cache root first g ∧ Carries cache g

theorem Forwarded.mem_keys {g : TcpFrame} (h : Forwarded cache root g) :
    root ∈ cache.gatewayHosts.keys := by
  obtain ⟨host, v, mode, accepted, -, -⟩ := h
  exact List.mem_map.mpr ⟨_, OrderedMap.mem_of_find?_eq_some accepted.found, rfl⟩

/-- If any root before another one forwards to it, one of them is the first to do so: the roots of a
cache are finitely many, in order. -/
theorem exists_firstEntry {earlier : Identity} {f : TcpFrame} (hlt : compare earlier root = .lt)
    (hforwarded : Forwarded cache earlier f) (howner : f.owner = root) :
    ∃ first g, compare first root = .lt ∧ FirstEntry cache root first g := by
  obtain ⟨first, -, ⟨hfirst, g, hg, hgowner⟩, hnone⟩ := cache.gatewayHosts.exists_first_key
    (P := fun i => compare i root = .lt ∧ ∃ g, Forwarded cache i g ∧ g.owner = root)
    ⟨earlier, hforwarded.mem_keys, hlt, f, hforwarded, howner⟩
  refine ⟨first, g, hfirst, hg, hgowner, fun other k hbefore hk hkowner => ?_⟩
  exact hnone other hk.mem_keys hbefore ⟨Std.TransCmp.lt_trans hbefore hfirst, k, hk, hkowner⟩

/-! ### The status of a root -/

theorem OwnStep.records {hosts : OrderedMap Identity GatewayHost} {f : RouteFrame} {s : Step}
    (h : OwnStep hosts f s) {object : ObjectRef} {outcome : Outcome}
    (hrecords : s.Records object outcome) : object = hostRef f.owner := by
  -- three kinds of steps record an object, and it is the host of the frame
  cases h with
  | serve route conditions =>
    cases hrecords
    rfl
  | reject problem =>
    cases hrecords
    rfl
  | accept =>
    cases hrecords
    rfl
  | back target seen => cases hrecords
  | root target child found root => cases hrecords
  | enter g hdel => cases hrecords

/-- What is done for another root gives a root an outcome only by forwarding to it, since no walk
over routes enters a root from another one. -/
theorem forwarded_of_records (found : cache.gatewayHosts.find? root = some host)
    (virtualHost : host.virtualHost = some v) {other : Identity} {otherHost : GatewayHost}
    (hother : cache.gatewayHosts.find? other = some otherHost) (hne : other ≠ root) {s : Step}
    (hs : s ∈ rootSteps cache (other, otherHost)) {outcome : Outcome}
    (hrecords : s.Records (hostRef root) outcome) :
    ∃ g, Forwarded cache other g ∧ g.owner = root := by
  rcases mem_rootSteps hother hs with ⟨-, problem, rfl⟩ | ⟨w, mode, accepted, hwalk⟩
  · cases hrecords
    exact absurd rfl hne
  cases origin_of_mem_walkSteps hwalk with
  | @forwarding g hforwards hg hown =>
    have howner : root = g.owner := congrArg ObjectRef.identity (hown.records hrecords)
    exact ⟨g, ⟨otherHost, w, mode, accepted, hforwards, hg⟩, howner.symm⟩
  | @routes g hserves hg hown =>
    -- routes lead to no other root
    have howner : root = g.owner := congrArg ObjectRef.identity (hown.records hrecords)
    rcases ReflTransGen.cases_tail hg with rfl | ⟨f, -, hdel⟩
    · exact absurd howner.symm hne
    · obtain ⟨child, hchild, hnone⟩ := hdel.find?_owner
      rw [← howner, found] at hchild
      cases hchild
      rw [virtualHost] at hnone
      cases hnone
  | merging hserves hcompletes hown => cases hown <;> cases hrecords

/-- The roots that are served before a root come before it in the order. -/
theorem lt_of_mem_takeWhile (found : cache.gatewayHosts.find? root = some host)
    {p : Identity × GatewayHost}
    (hp : p ∈ cache.gatewayHosts.toList.takeWhile fun p => p.1 ≠ root) : compare p.1 root = .lt := by
  obtain ⟨after, hsplit, -⟩ := split_at_root found
  have hincreasing := cache.gatewayHosts.increasing
  rw [hsplit] at hincreasing
  exact (List.pairwise_append.mp hincreasing).2.2 p hp _ List.mem_cons_self

/-- As long as no root forwards to a root, it has no status before its turn, in `buildBefore`. -/
theorem find?_buildBefore_eq_none [Pattern.Engine] (found : cache.gatewayHosts.find? root = some host)
    (virtualHost : host.virtualHost = some v)
    (alone : sharers cache.gatewayHosts v.domain = [root]) {next : Identity}
    {nextHost : GatewayHost} (hnext : cache.gatewayHosts.find? next = some nextHost)
    (hbefore : ∀ other, compare other next = .lt → other ≠ root ∧
      ∀ g, Forwarded cache other g → g.owner ≠ root) :
    (buildBefore cache next).statuses.find? (hostRef root) = none := by
  have hstart := holdOrphans_untouched cache
  have hfresh := hstart.find?_eq_none (hostRef root)
  -- it shares its domain name with no other root
  have hsorted : (sortHosts cache (addIngresses cache)).statuses.find? (hostRef root) = none := by
    refine (sortHosts_follows hstart.lookups).find?_eq_none hfresh fun s hs outcome hrecords => ?_
    obtain ⟨⟨other, otherHost⟩, hmem, hs⟩ := List.mem_flatMap.mp hs
    obtain ⟨w, hw, hmany, rfl⟩ := mem_sharerSteps_iff.mp hs
    cases hrecords
    have hother := OrderedMap.find?_eq_some_of_mem hmem
    rw [found] at hother
    cases hother
    rw [virtualHost] at hw
    cases hw
    rw [alone] at hmany
    exact Nat.lt_irrefl 1 hmany
  refine (addRoots_follows _ (sortHosts_sound cache)).find?_eq_none hsorted
    fun s hs outcome hrecords => ?_
  obtain ⟨⟨other, otherHost⟩, hmem, hs⟩ := List.mem_flatMap.mp hs
  have hother := OrderedMap.find?_eq_some_of_mem ((List.takeWhile_prefix _).subset hmem)
  obtain ⟨hne, hnone⟩ := hbefore other (lt_of_mem_takeWhile hnext hmem)
  obtain ⟨g, hforwarded, howner⟩ := forwarded_of_records found virtualHost hother hne hs hrecords
  exact hnone g hforwarded howner

/-- A status that an object has after the turn of a root stays, since the first one counts. -/
theorem find?_build_of_addRoot (found : cache.gatewayHosts.find? root = some host)
    {object : ObjectRef} {status : Status}
    (hfind : ((buildBefore cache root).addRoot cache (root, host)).statuses.find? object
      = some status) : (Graph.build cache).statuses.find? object = some status := by
  obtain ⟨after, hsplit, -⟩ := split_at_root found
  have hsound := (Building.addRoot_follows _ (root, host) (buildBefore_sound cache root)).lookups
    (buildBefore_sound cache root)
  have hrest := addRoots_follows after hsound
  have hall : after.foldl (Building.addRoot cache)
      ((buildBefore cache root).addRoot cache (root, host)) = buildAll cache := by
    rw [buildAll, hsplit, List.foldl_append, List.foldl_cons]
    rfl
  rw [hall] at hrest
  exact (recordOrphans_follows (buildAll cache) (hrest.lookups hsound)).kept _ _
    (hrest.kept _ _ hfind)

/-- The first root that forwards to a root decides about its status. -/
theorem find?_build_of_firstEntry (found : cache.gatewayHosts.find? root = some host)
    (virtualHost : host.virtualHost = some v)
    (alone : sharers cache.gatewayHosts v.domain = [root]) {first : Identity} {g : TcpFrame}
    (hlt : compare first root = .lt) (entry : FirstEntry cache root first g) :
    ∃ status, (Graph.build cache).statuses.find? (hostRef root) = some status ∧
      Verdict cache g status.outcome := by
  obtain ⟨firstHost, w, mode, accepted, hforwards, hg⟩ := entry.forwarded
  have hsound := buildBefore_sound cache first
  have hbefore : (buildBefore cache first).statuses.find? (hostRef root) = none := by
    refine find?_buildBefore_eq_none found virtualHost alone accepted.found fun other h => ⟨?_, ?_⟩
    · exact OrderedMap.ne_of_compare_lt (Std.TransCmp.lt_trans h hlt)
    · exact fun f => entry.earlier other f h
  -- before its walk a root reports nothing but its own problems
  have hopen : Follows cache _ (buildBefore cache first) _ :=
    (Building.look_follows (checkRoot_answers first w) (buildBefore cache first)).append
      (Building.openRoot_follows first firstHost w mode _)
  have hnone := hopen.find?_eq_none hbefore fun s hs outcome hrecords => by
    obtain ⟨problem, -, rfl⟩ := List.mem_map.mp hs
    cases hrecords
    exact OrderedMap.ne_of_compare_lt hlt rfl
  have howner := entry.owner
  subst howner
  obtain ⟨status, hfind, hverdict⟩ := (walk_forwardSteps first firstHost).verdict
    (List.mem_singleton_self first) hg ⟨w.domain, mode.enforcesTls⟩ (hopen.lookups hsound) hnone
  refine ⟨status, find?_build_of_addRoot accepted.found ?_, hverdict⟩
  rw [Building.addRoot_eq accepted hsound, walkSteps, hforwards]
  exact hfind

/-- A root that none of the roots before it forwards to is refused when it is its turn. -/
theorem fails_of_unforwarded (found : cache.gatewayHosts.find? root = some host)
    (virtualHost : host.virtualHost = some v)
    (alone : sharers cache.gatewayHosts v.domain = [root]) (bad : OutOfOrder cache root v)
    (hbefore : ∀ other g, compare other root = .lt → Forwarded cache other g → g.owner ≠ root) :
    Fails (Graph.build cache).statuses root := by
  -- nothing was recorded for the root before its turn, so what its turn records stays
  have hnone := find?_buildBefore_eq_none found virtualHost alone found fun other h =>
    ⟨OrderedMap.ne_of_compare_lt h, fun g => hbefore other g h⟩
  suffices hturn : ∃ status, ((buildBefore cache root).addRoot cache (root, host)).statuses.find?
      (hostRef root) = some status ∧ status.outcome.kind = .invalid by
    obtain ⟨status, hfind, hkind⟩ := hturn
    exact ⟨status, find?_build_of_addRoot found hfind, hkind⟩
  obtain ⟨problem, hmode⟩ := rootMode_error_iff.mpr bad
  have hadded := Building.addRoot_added found (buildBefore_sound cache root)
  generalize (buildBefore cache root).addRoot cache (root, host) = b' at hadded ⊢
  cases hadded with
  | noRoot virtualHost' =>
    rw [virtualHost] at virtualHost'
    cases virtualHost'
  | shared virtualHost' many =>
    rw [virtualHost] at virtualHost'
    cases virtualHost'
    rw [alone] at many
    exact absurd many (Nat.lt_irrefl 1)
  | refused virtualHost' alone' mode' sound =>
    exact ⟨_, Building.find?_settle_of_none hnone _ _, rfl⟩
  | served accepted sound =>
    have hv := accepted.virtualHost
    rw [virtualHost] at hv
    cases hv
    have hok := accepted.mode
    rw [hmode] at hok
    cases hok

/-- **When a refused root fails.** A root with something wrong ends with a problem, unless a root
before it vouches for it.  Then it is found in order. -/
theorem refused_fails_iff (found : cache.gatewayHosts.find? root = some host)
    (virtualHost : host.virtualHost = some v) (bad : OutOfOrder cache root v) :
    (Fails (Graph.build cache).statuses root ↔ ¬ Vouched cache root v) ∧
    (Vouched cache root v → ∃ status,
      (Graph.build cache).statuses.find? (hostRef root) = some status ∧
      status.outcome = .valid .gatewayHost) := by
  have hvalid : Vouched cache root v → ∃ status,
      (Graph.build cache).statuses.find? (hostRef root) = some status ∧
      status.outcome = .valid .gatewayHost := by
    rintro ⟨alone, first, g, hlt, entry, hcarries⟩
    obtain ⟨status, hfind, hverdict⟩ := find?_build_of_firstEntry found virtualHost alone hlt entry
    exact ⟨status, hfind, hverdict.valid hcarries⟩
  refine ⟨⟨?_, fun hnot => ?_⟩, hvalid⟩
  · rintro ⟨status, hfind, hkind⟩ hvouched
    obtain ⟨status', hfind', houtcome⟩ := hvalid hvouched
    rw [hfind] at hfind'
    cases hfind'
    rw [houtcome] at hkind
    cases hkind
  -- three cases: the name is shared, another walk forwards through the root first, or none does
  · by_cases hmany : 1 < (sharers cache.gatewayHosts v.domain).length
    · have hmem : root ∈ sharers cache.gatewayHosts v.domain :=
        mem_sharers.mpr ⟨host, v, found, virtualHost, rfl⟩
      obtain ⟨status, hfind, houtcome⟩ := find?_statuses_of_mem_sharers hmem hmany
      refine ⟨status, hfind, ?_⟩
      rw [houtcome]
      rfl
    have alone := sharers_eq_singleton found virtualHost hmany
    by_cases hforwarded : ∃ other g, compare other root = .lt ∧ Forwarded cache other g ∧
        g.owner = root
    · obtain ⟨other, g, hlt, hforwarded, howner⟩ := hforwarded
      obtain ⟨first, f, hlt, entry⟩ := exists_firstEntry hlt hforwarded howner
      obtain ⟨status, hfind, hverdict⟩ :=
        find?_build_of_firstEntry found virtualHost alone hlt entry
      exact ⟨status, hfind, hverdict.invalid fun hcarries =>
        hnot ⟨alone, first, f, hlt, entry, hcarries⟩⟩
    · exact fails_of_unforwarded found virtualHost alone bad fun other g hlt hforwards howner =>
        hforwarded ⟨other, g, hlt, hforwards, howner⟩

end

/-! ### A root that another one hands over to -/

/-- A root that forwards its connections, and has TLS settings without any content. -/
def backRoot : GatewayHost where
  metadata := { name := some "back", space := some "default" }
  virtualHost := some ⟨"back.test", some ⟨none, none, false⟩, []⟩
  routes := []
  tcpProxy := some ⟨[⟨"db", 5432, 1, none, none, none, none, none, []⟩], none⟩

/-- A root in order that hands its connections over to `backRoot`. -/
def alphaRoot : GatewayHost where
  metadata := { name := some "alpha", space := some "default" }
  virtualHost := some ⟨"alpha.test", some ⟨none, none, true⟩, []⟩
  routes := []
  tcpProxy := some ⟨[], some ⟨"back", none⟩⟩

/-- A cache with `backRoot`, the service that it forwards to, and other roots. -/
def backCache (others : List (Identity × GatewayHost)) : Cache where
  gatewayHosts := .ofList ((⟨"default", "back"⟩, backRoot) :: others)
  services := .ofList [(⟨"default", "db"⟩,
    ⟨{ name := some "db", space := some "default" }, none, none, [⟨none, 5432⟩]⟩)]

theorem backRoot_outOfOrder (cache : Cache) (root : Identity) :
    OutOfOrder cache root ⟨"back.test", some ⟨none, none, false⟩, []⟩ :=
  .tls rfl (.neither rfl rfl)

/-- By itself the root is refused. -/
theorem back_fails : Fails (Graph.build (backCache [])).statuses ⟨"default", "back"⟩ := by
  have found : (backCache []).gatewayHosts.find? ⟨"default", "back"⟩ = some backRoot := rfl
  refine (refused_fails_iff found rfl (backRoot_outOfOrder _ _)).1.mpr ?_
  rintro ⟨-, first, g, hlt, entry, -⟩
  -- there is no other root
  have hfirst : first ∈ [(⟨"default", "back"⟩ : Identity)] := entry.forwarded.mem_keys
  rw [List.mem_singleton.mp hfirst] at hlt
  exact OrderedMap.ne_of_compare_lt hlt rfl

/-- A cache with `alphaRoot` as well, which is served first. -/
def handedCache : Cache := backCache [(⟨"default", "alpha"⟩, alphaRoot)]

/-- The arguments with which `backRoot` is entered from `alphaRoot`. -/
def backFrame : TcpFrame :=
  ⟨[⟨"default", "alpha"⟩, ⟨"default", "back"⟩], ⟨"default", "back"⟩, backRoot.tcpProxy⟩

theorem alpha_firstEntry :
    FirstEntry handedCache ⟨"default", "back"⟩ ⟨"default", "alpha"⟩ backFrame where
  forwarded := by
    have accepted : Accepted handedCache ⟨"default", "alpha"⟩ alphaRoot
        ⟨"alpha.test", some ⟨none, none, true⟩, []⟩ .passthrough := ⟨rfl, rfl, rfl, rfl⟩
    -- the first root hands its connections over to the second, before the turn of that one
    have found : handedCache.gatewayHosts.find? ⟨"default", "back"⟩ = some backRoot := rfl
    have hnew : (⟨"default", "back"⟩ : Identity) ∉ [(⟨"default", "alpha"⟩ : Identity)] := by decide
    have hands : TcpDelegates handedCache.gatewayHosts (.ofRoot ⟨"default", "alpha"⟩ alphaRoot)
        backFrame :=
      @TcpDelegates.intro _ (.ofRoot ⟨"default", "alpha"⟩ alphaRoot) ⟨[], some ⟨"back", none⟩⟩
        ⟨"back", none⟩ backRoot rfl rfl rfl found hnew
    exact ⟨alphaRoot, _, .passthrough, accepted, rfl, .single hands⟩
  owner := rfl
  earlier := by
    intro other f hlt hforwarded
    have hother : other ∈ [(⟨"default", "alpha"⟩ : Identity), ⟨"default", "back"⟩] :=
      hforwarded.mem_keys
    rcases List.mem_pair.mp hother with rfl | rfl
    · exact absurd rfl (OrderedMap.ne_of_compare_lt hlt)
    · exact absurd hlt (by decide)

/-- With `alphaRoot` the other root is found in order, although its TLS settings say nothing. -/
theorem back_vouched :
    ¬ ∀ (cache : Cache) (root : Identity) (host : GatewayHost) (v : VirtualHostSpec),
      cache.gatewayHosts.find? root = some host → host.virtualHost = some v →
      OutOfOrder cache root v → Fails (Graph.build cache).statuses root := by
  intro hall
  have found : handedCache.gatewayHosts.find? ⟨"default", "back"⟩ = some backRoot := rfl
  have hcarries : Carries handedCache backFrame := by
    refine .inl ⟨_, ⟨rfl, List.cons_ne_nil _ _⟩, fun s hs => ?_⟩
    rw [List.mem_singleton.mp hs]
    rfl
  -- the second root would be refused, but the record of the first walk is there already
  obtain ⟨status, hfind, hverdict⟩ :=
    find?_build_of_firstEntry found rfl rfl (by decide) alpha_firstEntry
  obtain ⟨status', hfind', hkind⟩ := hall _ _ _ _ found rfl (backRoot_outOfOrder _ _)
  rw [hfind] at hfind'
  cases hfind'
  rw [hverdict.valid hcarries] at hkind
  cases hkind

end GatewayCompiler.Build
