import GatewayCompiler.Config.Load
import GatewayCompiler.Proofs.Conditions
import GatewayCompiler.Proofs.HostPolicies
import GatewayCompiler.Proofs.SecureHosts

/-!
# The names in a connection manager

A connection manager is made from the default filters and from the filters of the hosts that it
serves: all hosts in plain text, or one host over TLS.  Among them every name counts once.  The
router is put behind them without a look at their names, so that its own name comes twice if a filter
has it.

## Main definitions

* `Handles` — the hosts that a connection manager serves.

## Main statements

* `Config.chainConfig?_of_validate` — the default filters of an accepted configuration.
* `Handles.exists_iff_mem_managers` — the connection managers of a snapshot serve hosts.
* `Build.build_names_nodup_iff` — when the names in the connection managers of a built graph differ.
* `Build.shop_router_twice` — a configuration with a filter that is named like the router.
-/

namespace GatewayCompiler

open Proxy

/-! ### Default filters -/

/-- A configuration is accepted if and only if none of its fields is bad, and each of its default
filters passes `checkFilter`. -/
theorem Config.validate_eq_ok_iff {c : Config} : c.validate = .ok () ↔
    c.badFields = [] ∧ ∀ f ∈ c.proxy.defaultHttpFilters, checkFilter f = .ok () := by
  rw [← forM_eq_ok_iff]
  unfold Config.validate
  by_cases hfields : c.badFields = []
  · simp [hfields]
  · simp only [ne_eq, hfields, not_false_eq_true, if_true, false_and, iff_false]
    nofun

/-- `checkFilter` accepts a default filter if it has a name, and settings that may stand on a
host. -/
theorem Config.checkFilter_eq_ok_iff {f : Filter} : checkFilter f = .ok () ↔
    ¬ Text.isBlankText f.name ∧ ∃ s, f.settings .virtualHost = .ok s := by
  unfold Config.checkFilter
  constructor
  · intro h
    split at h
    · cases h
    · next hname =>
      split at h
      · cases h
      · split at h
        · cases h
        · next s hs => exact ⟨hname, s, hs⟩
  · rintro ⟨hname, s, hs⟩
    -- settings that may stand on a host are of a kind with a place in connection managers
    have hkind : f.kind.isHttpFilter := (FilterSettings.checked_of_parse hs).1
    simp [hname, hkind, hs]

/-- The default filters of an accepted configuration make filters of connection managers: none of
them is dropped by `chainConfig?`. -/
theorem Config.chainConfig?_of_validate {c : Config} (valid : c.validate = .ok ()) :
    ∀ f ∈ c.proxy.defaultHttpFilters, (f.chainConfig? .virtualHost).isSome := by
  intro f hf
  obtain ⟨-, s, hs⟩ := checkFilter_eq_ok_iff.mp ((validate_eq_ok_iff.mp valid).2 f hf)
  exact (Filter.of_settings hs).1

/-! ### Hosts of a connection manager -/

/-- `Handles config g manager role hosts` says that `manager` serves `hosts`: in plain text all
hosts of `g`, and over TLS a single one. -/
inductive Handles (config : ProxyConfig) (g : Graph) (manager : ConnectionManager) :
    ListenerRole → List VirtualHost → Prop
  /-- It is the one of the listener in plain text. -/
  | plain (there : manager ∈ (g.snapshot config).managersOf .plain) :
      Handles config g manager .plain g.plainHosts
  /-- It is in the chain of a host over TLS. -/
  | secure {h : SecureHost} {chain : FilterChain} (host : g.HasHost (.secure h))
      (there : h.chain? config = some chain) (filter : .connectionManager manager ∈ chain.filters) :
      Handles config g manager .secure [h.host]

/-- The connection managers of a `role` are connection managers of the snapshot. -/
theorem Proxy.Snapshot.managersOf_subset {s : Snapshot} {role : ListenerRole} :
    s.managersOf role ⊆ s.managers := by
  intro manager h
  obtain ⟨l, hl, -, chain, hchain, hfilter⟩ := Snapshot.mem_managersOf.mp h
  exact List.mem_filterMap.mpr ⟨_, List.mem_flatMap.mpr
    ⟨chain, List.mem_flatMap.mpr ⟨l, hl, hchain⟩, hfilter⟩, rfl⟩

namespace Handles

variable {config : ProxyConfig} {g : Graph} {manager : ConnectionManager}

/-- The connection managers of a snapshot are exactly those that `Handles` says to serve some
hosts. -/
theorem exists_iff_mem_managers :
    (∃ role hosts, Handles config g manager role hosts) ↔
      manager ∈ (g.snapshot config).managers := by
  -- a handling names its role and hosts, which the list of managers forgets
  constructor
  · rintro ⟨role, hosts, handles⟩
    cases handles with
    | plain there => exact Snapshot.managersOf_subset there
    | @secure h chain host there filter =>
      exact mem_managers_of_chain (mem_filterChains.mpr (.inr ⟨h, host, there⟩)) filter
  · intro h
    obtain ⟨m, hrendered⟩ := exists_rendered_of_mem_managers h
    cases hrendered with
    | @plain host l chain _ hhost listener role there filter =>
      exact ⟨.plain, _, .plain (Snapshot.mem_managersOf.mpr
        ⟨l, listener, role, chain, there, filter⟩)⟩
    | secure host there filter => exact ⟨.secure, _, .secure host there filter⟩

/-- The filters of the connection manager in plain text are made from `plainEntries`. -/
theorem httpFilters_plain (there : manager ∈ (g.snapshot config).managersOf .plain) :
    manager.httpFilters = httpFilters (plainEntries config g.plainHosts) := by
  obtain ⟨l, hl, hrole, chain, hchain, hfilter⟩ := Snapshot.mem_managersOf.mp there
  rcases mem_listeners.mp hl with ⟨hsome, -⟩ | ⟨-, rfl⟩
  · obtain ⟨only, honly, hmade⟩ := managersOf_plain config hsome
    rw [honly, List.mem_singleton] at there
    cases hmade
    rw [there]
  · have hne : ListenerRole.secure.name ≠ ListenerRole.plain.name := by decide
    exact absurd hrole hne

/-- The filters of the connection manager of a host over TLS are made from the entries of that host
alone. -/
theorem httpFilters_secure {h : SecureHost} {chain : FilterChain}
    (there : h.chain? config = some chain) (filter : .connectionManager manager ∈ chain.filters) :
    manager.httpFilters = httpFilters (h.entries config) := by
  cases (SecureHost.chained_of_chain? there).1 with
  | forwards tcp filters =>
    rw [filters] at filter
    cases List.mem_singleton.mp filter
  | serves tcp filters =>
    rw [filters] at filter
    cases List.mem_singleton.mp filter
    rfl

end Handles

/-! ### Names of entries -/

theorem mem_of_mem_mergeByName {layers : List (List Filter)} {f : Filter}
    (h : f ∈ (mergeByName layers).values) : f ∈ layers.flatten := by
  obtain ⟨⟨key, f⟩, hmem, rfl⟩ := List.mem_map.mp h
  have hfind := OrderedMap.find?_eq_some_of_mem hmem
  rw [find?_mergeByName_flatten] at hfind
  exact List.mem_reverse.mp (List.mem_of_find?_eq_some hfind)

/-- Merging keeps a filter of every name, though not always the same one. -/
theorem exists_mem_mergeByName {layers : List (List Filter)} {f : Filter} (h : f ∈ layers.flatten) :
    ∃ g ∈ (mergeByName layers).values, g.name = f.name := by
  have hsome : ((mergeByName layers).find? f.name).isSome := by
    rw [find?_mergeByName_flatten, List.find?_isSome]
    exact ⟨f, List.mem_reverse.mpr h, by simp⟩
  obtain ⟨g, hg⟩ := Option.isSome_iff_exists.mp hsome
  exact ⟨g, OrderedMap.mem_values_of_find?_eq_some hg,
    mergeByName_keyedBy layers _ (OrderedMap.mem_of_find?_eq_some hg)⟩

/-- In plain text there is an entry of a name exactly if one of the `contenders` of that name makes
one. -/
theorem exists_mem_plainEntries_iff {config : ProxyConfig} {hosts : List VirtualHost}
    {name : String} :
    (∃ e ∈ plainEntries config hosts, e.name = name) ↔
      ∃ p ∈ contenders config hosts, p.1.name = name ∧ (p.1.chainConfig? p.2).isSome := by
  rw [plainEntries_eq]
  simp only [contenders, List.mem_append, or_and_right, exists_or, exists_mem_entriesOf_iff]

/-- Over TLS it is the same, if the defaults and the filters of the host itself make entries: then
no filter that makes none replaces one that does. -/
theorem SecureHost.exists_mem_entries_iff {config : ProxyConfig} {h : SecureHost} {name : String}
    (hall : ∀ f ∈ config.defaultHttpFilters ++ h.host.filters,
      (f.chainConfig? .virtualHost).isSome) :
    (∃ e ∈ h.entries config, e.name = name) ↔
      ∃ p ∈ contenders config [h.host], p.1.name = name ∧ (p.1.chainConfig? p.2).isSome := by
  have hcontends : contenders config [h.host] =
      [config.defaultHttpFilters, h.host.filters].flatten.map (·, .virtualHost)
        ++ h.host.routeFilters := by
    simp [contenders, VirtualHost.allFilters_eq]
  rw [SecureHost.entries_eq, hcontends]
  simp only [List.mem_append, or_and_right, exists_or, exists_mem_entriesOf_iff]
  refine or_congr ?_ Iff.rfl
  have hall : ∀ f ∈ [config.defaultHttpFilters, h.host.filters].flatten,
      (f.chainConfig? .virtualHost).isSome := by simpa using hall
  generalize [config.defaultHttpFilters, h.host.filters] = layers at hall ⊢
  constructor
  · rintro ⟨_, hmem, hname, hsome⟩
    obtain ⟨f, hf, rfl⟩ := List.mem_map.mp hmem
    exact ⟨_, List.mem_map_of_mem (mem_of_mem_mergeByName hf), hname, hsome⟩
  · -- merging keeps a filter of every name
    rintro ⟨_, hmem, hname, -⟩
    obtain ⟨f, hf, rfl⟩ := List.mem_map.mp hmem
    obtain ⟨g, hg, hsame⟩ := exists_mem_mergeByName hf
    exact ⟨_, List.mem_map_of_mem hg, hsame.trans hname, hall g (mem_of_mem_mergeByName hg)⟩

/-! ### Connection managers of a build -/

namespace Build

variable {cache : Cache}

/-- The filters of a connection manager of a built graph come from entries, of which there is one of
a name exactly if a filter that contends for it makes one. -/
theorem exists_entries_of_handles [Pattern.Engine] {c : Config} (valid : c.validate = .ok ())
    {manager : ConnectionManager} {role : ListenerRole} {hosts : List VirtualHost}
    (handles : Handles c.proxy (Graph.build cache) manager role hosts) :
    ∃ entries, manager.httpFilters = httpFilters entries ∧ ∀ name,
      (∃ e ∈ entries, e.name = name) ↔
        ∃ p ∈ contenders c.proxy hosts, p.1.name = name ∧ (p.1.chainConfig? p.2).isSome := by
  cases handles with
  | plain there =>
    exact ⟨_, Handles.httpFilters_plain there, fun name => exists_mem_plainEntries_iff⟩
  | @secure h chain host there filter =>
    refine ⟨_, Handles.httpFilters_secure there filter, fun name =>
      SecureHost.exists_mem_entries_iff fun f hf => ?_⟩
    rcases List.mem_append.mp hf with hf | hf
    · exact Config.chainConfig?_of_validate valid f hf
    · obtain ⟨s, hs⟩ := (attachable_of_hasHost host).settings f hf
      exact (Filter.of_settings hs).1

/-- **When the names of filters differ.** In every connection manager of a built graph the router
comes last, and in front of it every name comes once.  It serves some hosts, and all names differ if
and only if no filter with the name of the router, among the defaults and those of the hosts, makes
a filter of the connection manager. -/
theorem build_names_nodup_iff [Pattern.Engine] {c : Config} (valid : c.validate = .ok ())
    {manager : ConnectionManager}
    (there : manager ∈ ((Graph.build cache).snapshot c.proxy).managers) :
    manager.httpFilters.getLast? = some ⟨routerName, false, .router⟩ ∧
    (manager.httpFilters.dropLast.map HttpFilterMessage.name).Nodup ∧
    (∃ role hosts, Handles c.proxy (Graph.build cache) manager role hosts) ∧
    ∀ role hosts, Handles c.proxy (Graph.build cache) manager role hosts →
      ((manager.httpFilters.map HttpFilterMessage.name).Nodup ↔
        ∀ p ∈ contenders c.proxy hosts, p.1.name = routerName → p.1.chainConfig? p.2 = none) := by
  obtain ⟨role, hosts, handles⟩ := Handles.exists_iff_mem_managers.mpr there
  obtain ⟨entries, hfilters, -⟩ := exists_entries_of_handles valid handles
  refine ⟨?_, ?_, ⟨role, hosts, handles⟩, fun role hosts handles => ?_⟩
  · rw [hfilters]
    exact List.getLast?_concat
  · rw [hfilters]
    exact nodup_names_dropLast_httpFilters entries
  · obtain ⟨entries, hfilters, hnames⟩ := exists_entries_of_handles valid handles
    have hrouter := not_congr (hnames routerName)
    simp only [not_exists, not_and, Bool.not_eq_true, Option.isSome_eq_false_iff,
      Option.isNone_iff_eq_none] at hrouter
    rw [hfilters]
    exact nodup_names_httpFilters_iff.trans hrouter

/-! ### A filter that is named like the router -/

/-- The graph of `shopCache`, a root with a certificate, has a host in plain text and one over TLS,
without any filters. -/
theorem shop_hosts [Pattern.Engine] (config : ProxyConfig) : ∃ plain secure,
    (Graph.build shopCache).plainHosts = [plain] ∧
    (Graph.build shopCache).routedHosts config = [secure] ∧
    plain.allFilters = [] ∧ secure.host.allFilters = [] := by
  have accepted : Accepted shopCache ⟨"default", "shop"⟩ shopHost
      ⟨"shop.test", some ⟨some "shop-tls", some "1.2", false⟩, []⟩
      (.terminate ⟨⟨"default", "shop-tls"⟩, .ofList [("tls.crt", [1]), ("tls.key", [2])]⟩ .v12) :=
    ⟨rfl, rfl, rfl, rfl⟩
  have hsteps : walkSteps shopCache ⟨"default", "shop"⟩ shopHost
      (VirtualHostSpec.mk "shop.test" (some ⟨some "shop-tls", some "1.2", false⟩) []).domain
      (.terminate ⟨⟨"default", "shop-tls"⟩, .ofList [("tls.crt", [1]), ("tls.key", [2])]⟩ .v12) = _ :=
    routeSteps_of_single rfl rfl
  rw [plainHosts_build, routedHosts_build, buildAll_of_single rfl accepted, hsteps]
  exact ⟨_, _, rfl, rfl, rfl, rfl⟩

/-- Both hosts of the graph have connection managers, whatever `config` is. -/
theorem shop_handles [Pattern.Engine] (config : ProxyConfig) : ∃ plain secure hosts hosts',
    Handles config (Graph.build shopCache) plain .plain hosts ∧
    Handles config (Graph.build shopCache) secure .secure hosts' ∧
    (∀ h ∈ hosts, h.allFilters = []) ∧ ∀ h ∈ hosts', h.allFilters = [] := by
  obtain ⟨host, host', hplain, hrouted, hbare, hbare'⟩ := shop_hosts config
  have hsome : (Graph.build shopCache).plainHosts ≠ [] := by simp [hplain]
  obtain ⟨plain, honly, -⟩ := managersOf_plain config hsome
  have hmem : host' ∈ (Graph.build shopCache).routedHosts config := by simp [hrouted]
  obtain ⟨⟨chain, hhost, hchain⟩, htcp⟩ := mem_routedHosts.mp hmem
  cases (SecureHost.chained_of_chain? hchain).1 with
  | forwards tcp filters =>
    rw [htcp] at tcp
    cases tcp
  | serves tcp filters =>
    refine ⟨plain, _, _, _, .plain (by simp [honly]),
      .secure hhost hchain (filters ▸ List.mem_singleton_self _), ?_, ?_⟩
    · simpa [hplain] using hbare
    · simpa using hbare'

/-- `defaultsConfig filters` is a configuration with the default filters `filters`, and nothing else
of note. -/
def defaultsConfig (filters : List Filter) : Config where
  proxy := { defaultHttpFilters := filters }

theorem defaultsConfig_valid {filters : List Filter}
    (h : ∀ f ∈ filters, ¬ Text.isBlankText f.name ∧ ∃ s, f.settings .virtualHost = .ok s) :
    (defaultsConfig filters).validate = .ok () :=
  Config.validate_eq_ok_iff.mpr ⟨rfl, fun f hf => Config.checkFilter_eq_ok_iff.mpr (h f hf)⟩

theorem bridge_valid : (defaultsConfig [bridge]).validate = .ok () := by
  refine defaultsConfig_valid fun f hf => ?_
  rw [List.mem_singleton.mp hf]
  exact ⟨by decide, _, clash_settings.1⟩

/-- The names differ where the default filter, `bridge`, has a name of its own. -/
theorem shop_names_differ :
    ∃ manager ∈ ((Graph.build shopCache).snapshot (defaultsConfig [bridge]).proxy).managers,
      (manager.httpFilters.map HttpFilterMessage.name).Nodup := by
  obtain ⟨manager, -, hosts, -, handles, -, hbare, -⟩ := shop_handles (defaultsConfig [bridge]).proxy
  have there := Handles.exists_iff_mem_managers.mp ⟨_, _, handles⟩
  obtain ⟨-, -, -, hall⟩ := build_names_nodup_iff bridge_valid there
  refine ⟨manager, there, (hall .plain hosts handles).mpr ?_⟩
  have hcontends : contenders (defaultsConfig [bridge]).proxy hosts = [(bridge, .virtualHost)] := by
    rw [contenders, List.flatMap_eq_nil_iff.mpr hbare]
    rfl
  rw [hcontends]
  intro p hp hname
  rw [List.mem_singleton.mp hp] at hname
  exact absurd hname (by decide)

/-- A filter with the name of the router.  It is accepted, as nothing reserves `routerName`. -/
def routerNamed : Filter := ⟨routerName, .grpcWeb, ""⟩

theorem routerNamed_settings : routerNamed.settings .virtualHost = .ok .grpcWeb := clash_settings.1

/-- The name of the router comes twice where a default filter has it. -/
theorem shop_router_twice :
    ¬ ∀ (cache : Cache) (c : Config), c.validate = .ok () →
      ∀ manager ∈ ((Graph.build cache).snapshot c.proxy).managers,
        (manager.httpFilters.map HttpFilterMessage.name).Nodup ∧
          manager.httpFilters.getLast?.map HttpFilterMessage.name = some routerName := by
  intro hall
  have valid : (defaultsConfig [routerNamed]).validate = .ok () := by
    refine defaultsConfig_valid fun f hf => ?_
    rw [List.mem_singleton.mp hf]
    exact ⟨by decide, _, routerNamed_settings⟩
  obtain ⟨manager, -, hosts, -, handles, -⟩ := shop_handles (defaultsConfig [routerNamed]).proxy
  have there := Handles.exists_iff_mem_managers.mp ⟨_, _, handles⟩
  obtain ⟨hnodup, -⟩ := hall _ _ valid manager there
  obtain ⟨entries, hfilters, hnames⟩ := exists_entries_of_handles valid handles
  have hcontends :
      (routerNamed, .virtualHost) ∈ contenders (defaultsConfig [routerNamed]).proxy hosts :=
    List.mem_append_left _ (List.mem_singleton_self _)
  obtain ⟨e, he, hname⟩ := (hnames routerName).mpr
    ⟨_, hcontends, rfl, (Filter.of_settings routerNamed_settings).1⟩
  rw [hfilters, nodup_names_httpFilters_iff] at hnodup
  exact hnodup e he hname

end Build

end GatewayCompiler
