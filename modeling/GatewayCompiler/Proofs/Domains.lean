import GatewayCompiler.Proofs.GraphHosts
import GatewayCompiler.Proofs.Naming
import Mathlib.Data.List.Pairwise

/-!
# The domains of a listener

The proxy refuses a route configuration in which a domain comes twice, or the name of a host.  Hosts
have different names in the graph, and what is derived from the names is different as well: with one
exception.  A host is served under its own name and under its name with any port, and nothing keeps
the second from being the name of another host.

## Main definitions

* `hostDigest` — the digits that stand for a host with a long name.
* `DigestsDiffer` — the long ones among some names have different digits.

## Main statements

* `nodup_hostDomains_iff` — when the domains of hosts differ.
* `hostMessageName_eq`, `nodup_hostMessageNames_iff` — when the names of their messages differ.
* `Build.build_domains_nodup_iff` — every route configuration of a built graph.
* `Build.port_domains_clash` — a cache with a domain that comes twice.
-/

namespace GatewayCompiler

open Proxy

/-! ### Domains -/

theorem mem_hostDomains {host domain : String} :
    domain ∈ hostDomains host ↔ domain = host ∨ (host ≠ wildcardHost ∧ domain = host ++ ":*") := by
  unfold hostDomains
  split
  · next h => simp [h]
  · next h => simp [h]

theorem ne_append_port (host : String) : host ≠ host ++ ":*" := by
  intro h
  have hlength := congrArg String.length h
  rw [String.length_append] at hlength
  have hport : (":*" : String).length = 2 := rfl
  omega

/-- The domains of a host differ: a name is not itself with any port. -/
theorem nodup_hostDomains (host : String) : (hostDomains host).Nodup := by
  unfold hostDomains
  split
  · exact List.nodup_singleton _
  · simpa using ne_append_port host

/-- Two hosts have no domain in common, unless one of them is named like the other one with any
port.  The wildcard has only one domain, so it is no such other one. -/
theorem disjoint_hostDomains_iff {a b : String} (hne : a ≠ b) :
    List.Disjoint (hostDomains a) (hostDomains b) ↔
      ¬ (a ≠ wildcardHost ∧ a ++ ":*" = b) ∧ ¬ (b ≠ wildcardHost ∧ b ++ ":*" = a) := by
  constructor
  · intro hdisjoint
    constructor
    · rintro ⟨ha, rfl⟩
      exact hdisjoint (mem_hostDomains.mpr (.inr ⟨ha, rfl⟩)) (mem_hostDomains.mpr (.inl rfl))
    · rintro ⟨hb, rfl⟩
      exact hdisjoint (mem_hostDomains.mpr (.inl rfl)) (mem_hostDomains.mpr (.inr ⟨hb, rfl⟩))
  · rintro ⟨hab, hba⟩ domain ha hb
    -- the first domain of a host is its name and the second the name with `:*` behind it, so two
    -- hosts can meet only with the second domain of one at the first of the other
    rcases mem_hostDomains.mp ha with rfl | ⟨hwild, rfl⟩
    · rcases mem_hostDomains.mp hb with rfl | ⟨hwild, heq⟩
      · exact hne rfl
      · exact hba ⟨hwild, heq.symm⟩
    · rcases mem_hostDomains.mp hb with heq | ⟨-, heq⟩
      · exact hab ⟨hwild, heq⟩
      · exact hne ((String.append_left_inj _).mp heq)

/-- The domains of hosts with different names differ if and only if no host is named like another
one with any port. -/
theorem nodup_hostDomains_iff {hosts : List String} (hnodup : hosts.Nodup) :
    (hosts.flatMap hostDomains).Nodup ↔
      ∀ host ∈ hosts, host ≠ wildcardHost → host ++ ":*" ∉ hosts := by
  rw [List.nodup_flatMap]
  constructor
  · rintro ⟨-, hpairs⟩ host hhost hwild hport
    -- `hostDomains` is symmetric in disjointness, which turns the ordered pairs into all pairs
    have : Std.Symm (Function.onFun List.Disjoint hostDomains) :=
      ⟨fun _ _ hdisjoint _ hb ha => hdisjoint ha hb⟩
    have hdisjoint := hpairs.forall hhost hport (ne_append_port host)
    exact ((disjoint_hostDomains_iff (ne_append_port host)).mp hdisjoint).1 ⟨hwild, rfl⟩
  · intro hports
    refine ⟨fun host _ => nodup_hostDomains host, hnodup.pairwise_of_forall_ne ?_⟩
    intro a ha b hb hne
    refine (disjoint_hostDomains_iff hne).mpr ⟨?_, ?_⟩
    · rintro ⟨hwild, rfl⟩
      exact hports a ha hwild hb
    · rintro ⟨hwild, rfl⟩
      exact hports b hb hwild ha

/-! ### Names of messages -/

/-- `hostDigest host` are the digits that stand for a host whose name is too long: as many digits of
its digest as fit into `nameLimit`. -/
def hostDigest (host : String) : String := firstChars nameLimit (hash (textBytes host))

theorem length_hostDigest (host : String) : (hostDigest host).length = nameLimit := by
  rw [hostDigest, length_firstChars, length_hash]
  rfl

/-- A host is known by its name if it is short enough, and by `hostDigest` otherwise. -/
theorem hostMessageName_eq (host : String) :
    hostMessageName host = if host.length < nameLimit then host else hostDigest host := by
  have hjoined : joinSegments [host] = host := String.intercalate_singleton
  unfold hostMessageName hashname
  simp only [hjoined]
  split
  · rfl
  · next hlong =>
    -- a single segment that is cut has the length of the limit, which is one too many
    have hcut : ∀ suffix, ¬ (joinSegments (shortenLast nameLimit suffix [host] 1)).length
        < nameLimit := by
      intro suffix
      have hone : shortenLast nameLimit suffix [host] 1 = [truncate (nameLimit / 1) host suffix] :=
        rfl
      rw [hone, joinSegments, String.intercalate_singleton, length_truncate]
      omega
    simp [hcut, hostDigest]

/-- `DigestsDiffer hosts` says that the long ones among the names `hosts` are told apart by their
digits. -/
def DigestsDiffer (hosts : List String) : Prop :=
  ∀ a ∈ hosts, ∀ b ∈ hosts, nameLimit ≤ a.length → nameLimit ≤ b.length →
    hostDigest a = hostDigest b → a = b

/-- The messages of hosts with different names have different names if and only if the long ones are
told apart by their digits: a short name is never taken for digits, as it has less than `nameLimit`
characters. -/
theorem nodup_hostMessageNames_iff {hosts : List String} (hnodup : hosts.Nodup) :
    (hosts.map hostMessageName).Nodup ↔ DigestsDiffer hosts := by
  rw [List.nodup_map_iff_inj_on hnodup]
  constructor
  · intro hinj a ha b hb hlongA hlongB heq
    refine hinj a ha b hb ?_
    rw [hostMessageName_eq, hostMessageName_eq, if_neg (by omega), if_neg (by omega), heq]
  · intro hdiffer a ha b hb heq
    have hdigitsA := length_hostDigest a
    have hdigitsB := length_hostDigest b
    rw [hostMessageName_eq, hostMessageName_eq] at heq
    split at heq
    -- a short name stands as it is, and is shorter than the digits of any other
    · next hshort =>
      split at heq
      · exact heq
      · rw [heq] at hshort
        omega
    · next hlong =>
      split at heq
      · next hshort =>
        rw [← heq] at hshort
        omega
      · next hlong' => exact hdiffer a ha b hb (by omega) (by omega) heq

/-! ### Route configurations -/

/-- The domains of a route configuration, and the names in it, are those of its hosts in some
order. -/
theorem perm_routeConfiguration {role : ListenerRole} {name : String} (hosts : List VirtualHost) :
    let c := routeConfiguration name (hosts.map (VirtualHost.message role))
    (c.virtualHosts.flatMap VirtualHostMessage.domains).Perm
        ((hosts.map VirtualHost.name).flatMap hostDomains) ∧
      (c.virtualHosts.map VirtualHostMessage.name).Perm
        ((hosts.map VirtualHost.name).map hostMessageName) := by
  have hperm := List.mergeSort_perm (hosts.map (VirtualHost.message role))
    fun a b => (compare a.name b.name).isLE
  constructor
  · refine (hperm.flatMap_right _).trans (List.Perm.of_eq ?_)
    rw [List.flatMap_map, List.flatMap_map]
    rfl
  · refine (hperm.map _).trans (List.Perm.of_eq ?_)
    rw [List.map_map, List.map_map]
    rfl

/-- `g.hostNames config role` are the names of the hosts of `role`. -/
def Graph.hostNames (config : ProxyConfig) (g : Graph) (role : ListenerRole) : List String :=
  (g.hostsOf config role).map VirtualHost.name

/-- **When domains and names differ.** Every route configuration of a built graph belongs to a role.
No domain comes twice in it if and only if no host is named like another one, other than the
wildcard, with any port.  No name of a host comes twice in it if and only if the hosts with long
names are told apart by their digits. -/
theorem Build.build_domains_nodup_iff [Pattern.Engine] {cache : Cache} {config : ProxyConfig}
    {c : RouteConfiguration}
    (hc : c ∈ ((Graph.build cache).snapshot config).routeConfigurations) :
    ∃ role : ListenerRole, c.name = role.name ∧
      ((c.virtualHosts.flatMap VirtualHostMessage.domains).Nodup ↔
        ∀ host ∈ (Graph.build cache).hostNames config role, host ≠ wildcardHost →
          host ++ ":*" ∉ (Graph.build cache).hostNames config role) ∧
      ((c.virtualHosts.map VirtualHostMessage.name).Nodup ↔
        DigestsDiffer ((Graph.build cache).hostNames config role)) := by
  obtain ⟨role, -, rfl⟩ := mem_routeConfigurations_iff.mp hc
  have hnodup := nodup_names_hostsOf config cache role
  obtain ⟨hdomains, hnames⟩ :=
    @perm_routeConfiguration role role.name ((Graph.build cache).hostsOf config role)
  exact ⟨role, rfl, hdomains.nodup_iff.trans (nodup_hostDomains_iff hnodup),
    hnames.nodup_iff.trans (nodup_hostMessageNames_iff hnodup)⟩

/-! ### A host named like another one with any port -/

namespace Build

/-- A route for all paths to a service. -/
def portRoute : RouteSpec :=
  { apiRoute with
    conditions := []
    services := [⟨"app", 80, 1, none, none, none, none, none, []⟩] }

/-- A root of the domain name `fqdn` with the route. -/
def portRoot (name fqdn : String) : GatewayHost where
  metadata := { name := some name, space := some "default" }
  virtualHost := some ⟨fqdn, none, []⟩
  routes := [portRoute]
  tcpProxy := none

/-- A cache with two roots.  The domain name of the second one, `site.test:*`, is that of the first
one with any port. -/
def portCache : Cache where
  gatewayHosts := .ofList [(⟨"default", "any"⟩, portRoot "any" "site.test:*"),
    (⟨"default", "site"⟩, portRoot "site" "site.test")]
  services := .ofList [(⟨"default", "app"⟩,
    ⟨{ name := some "app", space := some "default" }, none, none, [⟨none, 80⟩]⟩)]

theorem port_walkSteps [Pattern.Engine] (name fqdn domain : String) :
    walkSteps portCache ⟨"default", name⟩ (portRoot name fqdn) domain .off =
      [.serve (hostRef ⟨"default", name⟩) portRoute [], .accept ⟨"default", name⟩] :=
  routeSteps_of_single rfl rfl

theorem port_hostNames [Pattern.Engine] :
    (Graph.build portCache).hostNames {} .plain = ["site.test", "site.test:*"] := by
  have first : Accepted portCache ⟨"default", "any"⟩ (portRoot "any" "site.test:*")
      ⟨"site.test:*", none, []⟩ .off := ⟨rfl, rfl, rfl, rfl⟩
  have second : Accepted portCache ⟨"default", "site"⟩ (portRoot "site" "site.test")
      ⟨"site.test", none, []⟩ .off := ⟨rfl, rfl, rfl, rfl⟩
  unfold Graph.hostNames Graph.hostsOf
  simp only
  rw [plainHosts_build, buildAll_of_pair rfl first second, port_walkSteps, port_walkSteps]
  rfl

theorem port_routeConfiguration [Pattern.Engine] :
    routeConfiguration ListenerRole.plain.name
        (((Graph.build portCache).hostsOf {} .plain).map (VirtualHost.message .plain))
      ∈ ((Graph.build portCache).snapshot {}).routeConfigurations := by
  refine mem_routeConfigurations_iff.mpr ⟨.plain, fun hnil => ?_, rfl⟩
  have hnames := port_hostNames
  rw [Graph.hostNames, hnil] at hnames
  cases hnames

/-- The two hosts of `portCache` have different names. -/
theorem port_names_differ :
    ∃ c ∈ ((Graph.build portCache).snapshot {}).routeConfigurations,
      c.name = ListenerRole.plain.name ∧ (c.virtualHosts.map VirtualHostMessage.name).Nodup := by
  obtain ⟨role, hrole, -, hnames⟩ := build_domains_nodup_iff port_routeConfiguration
  refine ⟨_, port_routeConfiguration, rfl, hnames.mpr ?_⟩
  cases role with
  | plain =>
    rw [port_hostNames]
    intro a ha b _ hlong
    have hshort : ∀ host ∈ ["site.test", "site.test:*"], host.length < nameLimit := by decide
    exact absurd (hshort a ha) (by omega)
  | secure =>
    have hne : ListenerRole.plain.name ≠ ListenerRole.secure.name := by decide
    exact absurd hrole hne

/-- The name of the second host is a domain of the first one as well, though the digests of the two
names differ. -/
theorem port_domains_clash :
    ¬ ∀ (cache : Cache) (config : ProxyConfig) (role : ListenerRole),
      (∀ a ∈ (Graph.build cache).hostNames config role,
        ∀ b ∈ (Graph.build cache).hostNames config role,
          Digest.sha256 (textBytes a) = Digest.sha256 (textBytes b) → a = b) →
      ∀ c ∈ ((Graph.build cache).snapshot config).routeConfigurations, c.name = role.name →
        (c.virtualHosts.flatMap VirtualHostMessage.domains).Nodup ∧
          (c.virtualHosts.map VirtualHostMessage.name).Nodup := by
  intro hall
  have hdigests :
      Digest.sha256 (textBytes "site.test") ≠ Digest.sha256 (textBytes "site.test:*") := by
    decide +kernel
  obtain ⟨hdomains, -⟩ := hall portCache {} .plain (by
    rw [port_hostNames]
    simp [hdigests, hdigests.symm]) _ port_routeConfiguration rfl
  rw [(perm_routeConfiguration _).1.nodup_iff] at hdomains
  change (((Graph.build portCache).hostNames {} .plain).flatMap hostDomains).Nodup at hdomains
  rw [port_hostNames] at hdomains
  exact absurd hdomains (by decide)

end Build

end GatewayCompiler
