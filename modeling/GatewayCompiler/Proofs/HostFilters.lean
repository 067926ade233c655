import GatewayCompiler.Proofs.FilterSettings
import GatewayCompiler.Proofs.Growth
import GatewayCompiler.Proofs.GraphHosts

/-!
# Filters of hosts in plain text

In plain text one connection manager serves all hosts, and it holds one filter for each name.  Names
are those of filter objects without their namespaces, so that filters of different objects may share
one.  The first filter of a name rules: the defaults come first, and then the hosts in the order of
their names, each with its own filters in front of those of its routes and of the clusters behind
them.

A host turns its filters on by their names.  Where another filter rules, the host turns that one on.
Scripts and cross-origin policies are then put in its place, and other kinds have nothing to put
there.

## Main definitions

* `Attachable` — the filters of a host can be rendered and have different names.
* `ruling?` — the filter that rules a name.
* `InForce` — a filter of a host is in force with its own settings.

## Main statements

* `find?_overrides` — a host changes a filter as its own filter of the name says.
* `exists_httpFilter_iff` — the connection manager holds the filters that rule their names.
* `inForce_iff` — when a filter is in force.
* `build_filters_inForce` — the same for a built graph, as the proxy is told.
* `clash_not_inForce` — two roots of different namespaces, the second of which runs a filter of the
  first one.
-/

namespace GatewayCompiler

open Proxy

/-! ### Filters that are attached -/

/-- `Attachable filters` says that the filters can be attached to a host: the settings of each may
stand there, and no two of them share a name. -/
structure Attachable (filters : List Filter) : Prop where
  /-- The settings may stand on a host. -/
  settings : ∀ f ∈ filters, ∃ s, f.settings .virtualHost = .ok s
  /-- The names differ. -/
  distinct : (filters.map Filter.name).Nodup

section Filters

variable {filters : List Filter} {f g : Filter}

/-- The settings of a filter that a reference means may stand at the `scope` of the reference. -/
theorem Build.settings_of_mem_resolveFilters {cache : Cache} {scope : FilterScope} {space : String}
    {refs : List FilterRef} (h : f ∈ (resolveFilters cache scope space refs).1) :
    ∃ s, f.settings scope = .ok s := by
  obtain ⟨found, hfound, hok⟩ := List.mem_filterMap.mp h
  obtain ⟨ref, -, rfl⟩ := List.mem_map.mp hfound
  unfold resolveFilter at hok
  simp only at hok
  split at hok
  · cases hok
  · split at hok
    · cases hok
    · next settings hsettings =>
      cases hok
      exact ⟨settings, hsettings⟩

/-- The filters of a host that comes about by the rules are `Attachable`. -/
theorem Build.Grown.attachable [Pattern.Engine] {cache : Cache} {name : String} {overTls : Bool}
    {h : VirtualHost} (hh : Grown cache name overTls h) : Attachable h.filters where
  settings := by
    induction hh with
    | new => nofun
    | addRoute grown attached ih => exact ih
    | addFilters grown space refs ih =>
      intro g hg
      rcases mem_addFilters hg with hg | hg
      · exact ih g hg
      · exact settings_of_mem_resolveFilters hg
    | forward secure grown forwards ih => exact ih
  distinct := hh.nodup_filters

/-- A filter changes what it says under its name, if no other filter has the name. -/
theorem find?_overrides_of_alone {scope : FilterScope} (hf : f ∈ filters)
    (alone : ∀ g ∈ filters, g.name = f.name → g = f) {o : FilterOverride}
    (ho : f.override? scope = some o) : (overrides filters scope).find? f.name = some o := by
  refine OrderedMap.find?_ofList_append [] (List.mem_filterMap.mpr ⟨f, hf, by simp [ho]⟩) ?_
  intro other hother
  obtain ⟨g, hg, hsome⟩ := List.mem_filterMap.mp hother
  obtain ⟨o', ho', heq⟩ := Option.map_eq_some_iff.mp hsome
  obtain ⟨hname, rfl⟩ := Prod.mk.inj heq
  rw [alone g hg hname, ho] at ho'
  exact (Option.some.inj ho').symm

/-- Filters of different names change what they say, each under its name. -/
theorem find?_overrides {scope : FilterScope} (distinct : (filters.map Filter.name).Nodup)
    (hf : f ∈ filters) {o : FilterOverride} (ho : f.override? scope = some o) :
    (overrides filters scope).find? f.name = some o :=
  find?_overrides_of_alone hf (fun _ hg hname => List.inj_on_of_nodup_map distinct hg hf hname) ho

end Filters

/-! ### The filter that rules a name -/

/-- `h.allFilters` are the filters of a host, of its routes and of the clusters behind them, each
with its scope. -/
def VirtualHost.allFilters (h : VirtualHost) : List (Filter × FilterScope) :=
  h.filters.map (·, .virtualHost) ++ h.routes.values.flatMap fun r =>
    r.filters.map (·, .route) ++ r.clusters.flatMap fun c => c.filters.map (·, .cluster)

/-- `h.routeFilters` are the filters of the routes of a host and of the clusters behind them. -/
def VirtualHost.routeFilters (h : VirtualHost) : List (Filter × FilterScope) :=
  h.routes.values.flatMap fun r =>
    r.filters.map (·, .route) ++ r.clusters.flatMap fun c => c.filters.map (·, .cluster)

theorem VirtualHost.allFilters_eq (h : VirtualHost) :
    h.allFilters = h.filters.map (·, .virtualHost) ++ h.routeFilters := rfl

/-- `contenders config hosts` are the filters that the connection manager of plain text is made
from: the defaults, and those of each host. -/
def contenders (config : ProxyConfig) (hosts : List VirtualHost) : List (Filter × FilterScope) :=
  config.defaultHttpFilters.map (·, .virtualHost) ++ hosts.flatMap VirtualHost.allFilters

/-- `ruling? config hosts name` is the filter that rules a name: the first one of the name among the
`contenders` that can stand in a connection manager. -/
def ruling? (config : ProxyConfig) (hosts : List VirtualHost) (name : String) :
    Option (Filter × FilterScope) :=
  (contenders config hosts).find? fun p => p.1.name = name && (p.1.chainConfig? p.2).isSome

/-- `entriesOf disabled filters` are the entries of filters that are all on or all off. -/
def entriesOf (disabled : Bool) (filters : List (Filter × FilterScope)) : List ChainEntry :=
  filters.filterMap fun p => p.1.inChain? p.2 disabled

theorem VirtualHost.routeEntries_eq (h : VirtualHost) :
    h.routeEntries = entriesOf true h.routeFilters := by
  unfold routeEntries entriesOfRoute entriesOf routeFilters
  simp only [List.filterMap_append, List.filterMap_map, List.filterMap_flatMap, Function.comp_def]

theorem VirtualHost.plainEntries_eq (h : VirtualHost) :
    h.plainEntries = entriesOf true h.allFilters := by
  rw [plainEntries, h.routeEntries_eq]
  unfold entriesOf
  rw [allFilters_eq, List.filterMap_append, List.filterMap_map]
  rfl

/-- The entries of plain text: those of the defaults are on, and those of the hosts are off. -/
theorem plainEntries_eq (config : ProxyConfig) (hosts : List VirtualHost) :
    plainEntries config hosts
      = entriesOf false (config.defaultHttpFilters.map (·, .virtualHost))
        ++ entriesOf true (hosts.flatMap VirtualHost.allFilters) := by
  unfold plainEntries
  rw [funext VirtualHost.plainEntries_eq]
  unfold entriesOf
  rw [List.filterMap_map, List.filterMap_flatMap]
  rfl

/-- The entries of some filters are all on or all off, as it was asked for. -/
theorem disabled_of_mem_entriesOf {disabled : Bool} {filters : List (Filter × FilterScope)}
    {e : ChainEntry} (he : e ∈ entriesOf disabled filters) : e.disabled = disabled := by
  obtain ⟨p, -, hp⟩ := List.mem_filterMap.mp he
  exact (Filter.inChain?_name hp).2

/-- There is an entry of a name exactly if a filter of the name makes one. -/
theorem exists_mem_entriesOf_iff {disabled : Bool} {filters : List (Filter × FilterScope)}
    {name : String} :
    (∃ e ∈ entriesOf disabled filters, e.name = name) ↔
      ∃ p ∈ filters, p.1.name = name ∧ (p.1.chainConfig? p.2).isSome := by
  constructor
  · rintro ⟨e, he, rfl⟩
    obtain ⟨p, hp, hentry⟩ := List.mem_filterMap.mp he
    refine ⟨p, hp, (Filter.inChain?_name hentry).1.symm, ?_⟩
    rw [← Filter.inChain?_eq p.1 p.2 disabled, hentry]
    rfl
  · rintro ⟨p, hp, rfl, hsome⟩
    rw [← Filter.inChain?_eq p.1 p.2 disabled, Option.isSome_map] at hsome
    obtain ⟨e, he⟩ := Option.isSome_iff_exists.mp hsome
    exact ⟨e, List.mem_filterMap.mpr ⟨p, hp, he⟩, (Filter.inChain?_name he).1⟩

/-- The first entry of a name is that of the first filter of the name that makes one. -/
theorem find?_entriesOf (disabled : Bool) (filters : List (Filter × FilterScope)) (name : String) :
    ((entriesOf disabled filters).find? fun e => e.name = name).map ChainEntry.config =
      (filters.find? fun p => p.1.name = name && (p.1.chainConfig? p.2).isSome).bind
        fun p => p.1.chainConfig? p.2 := by
  -- an entry is found by the name of its filter, and only a filter with a configuration has one
  have htest : ∀ p : Filter × FilterScope,
      ((p.1.inChain? p.2 disabled).any fun e => e.name = name)
        = (p.1.name = name && (p.1.chainConfig? p.2).isSome) := by
    intro p
    rw [← Filter.inChain?_eq p.1 p.2 disabled]
    cases hentry : p.1.inChain? p.2 disabled with
    | none => simp
    | some e => simp [(Filter.inChain?_name hentry).1]
  unfold entriesOf
  rw [List.find?_filterMap]
  simp only [htest]
  rw [Option.map_bind]
  simp only [Function.comp_def, Filter.inChain?_eq]

/-- The same as `find?_entriesOf` for what the proxy is told. -/
theorem find?_entriesOf_message (disabled : Bool) (filters : List (Filter × FilterScope))
    (name : String) :
    ((entriesOf disabled filters).find? fun e => e.name = name).map ChainEntry.message =
      ((filters.find? fun p => p.1.name = name && (p.1.chainConfig? p.2).isSome).bind
        fun p => p.1.chainConfig? p.2).map (⟨name, disabled, ·⟩) := by
  rw [← find?_entriesOf disabled, Option.map_map]
  cases hfind : (entriesOf disabled filters).find? fun e => e.name = name with
  | none => rfl
  | some e =>
    have hname : e.name = name := by simpa using List.find?_some hfind
    have hflag := disabled_of_mem_entriesOf (List.mem_of_find?_eq_some hfind)
    simp [ChainEntry.message, hname, hflag]

/-- The entry of a name that counts in plain text is that of the filter that rules the name, since
an entry that is on comes before all that are off. -/
theorem chosen?_plainEntries (config : ProxyConfig) (hosts : List VirtualHost) (name : String) :
    (chosen? (plainEntries config hosts) name).map ChainEntry.config =
      (ruling? config hosts name).bind fun p => p.1.chainConfig? p.2 := by
  -- the defaults are on and come first
  rw [plainEntries_eq, chosen?_append (fun _ => disabled_of_mem_entriesOf)
    (fun _ => disabled_of_mem_entriesOf), List.find?_append, Option.map_or, find?_entriesOf,
    find?_entriesOf, ruling?, contenders, List.find?_append]
  cases hdefault : (config.defaultHttpFilters.map (·, FilterScope.virtualHost)).find?
      fun p => p.1.name = name && (p.1.chainConfig? p.2).isSome with
  | none => rfl
  | some p =>
    have hsome := List.find?_some hdefault
    rw [Bool.and_eq_true] at hsome
    obtain ⟨config, hconfig⟩ := Option.isSome_iff_exists.mp hsome.2
    simp [hconfig]

/-- The connection manager of plain text holds the filters that rule their names, and the router,
for which `Q` does not hold. -/
theorem exists_httpFilter_iff {config : ProxyConfig} {hosts : List VirtualHost} {name : String}
    {Q : HttpFilterConfig → Prop} (hrouter : ¬ Q .router) :
    (∃ m ∈ httpFilters (plainEntries config hosts), m.name = name ∧ Q m.config) ↔
      ∃ g scope c, ruling? config hosts name = some (g, scope) ∧ g.chainConfig? scope = some c ∧
        Q c := by
  have hchosen := chosen?_plainEntries config hosts name
  constructor
  · rintro ⟨m, hm, rfl, hQ⟩
    -- a filter is that of a chosen entry or the router, and `Q` excludes the router
    rcases mem_httpFilters.mp hm with ⟨e, he, rfl⟩ | rfl
    · change (chosen? (plainEntries config hosts) e.name).map _ = _ at hchosen
      rw [he] at hchosen
      obtain ⟨⟨g, scope⟩, hruling, hconfig⟩ := Option.bind_eq_some_iff.mp hchosen.symm
      exact ⟨g, scope, e.config, hruling, hconfig, hQ⟩
    · exact absurd hQ hrouter
  · rintro ⟨g, scope, c, hruling, hconfig, hQ⟩
    rw [hruling, Option.bind_some, hconfig] at hchosen
    obtain ⟨e, he, rfl⟩ := Option.map_eq_some_iff.mp hchosen
    have hname : e.name = name := by
      rw [← find?_selectEntries] at he
      exact selectEntries_keyedBy _ _ (OrderedMap.mem_of_find?_eq_some he)
    exact ⟨e.message, mem_httpFilters.mpr (.inl ⟨e, by rw [hname]; exact he, rfl⟩), hname, hQ⟩

/-! ### Filters in force -/

/-- `ActsFor host f config` says that `config`, in the connection manager, acts for the filter `f`
of `host`: it is of the kind of `f`, and it is what `f` comes to, or the host puts what `f` says in
its place. -/
def ActsFor (host : VirtualHostMessage) (f : Filter) (config : HttpFilterConfig) : Prop :=
  config.kind? = some f.kind ∧
    (f.chainConfig? .virtualHost = some config ∨
      ∃ payload, f.overrideConfig? .virtualHost = some payload ∧
        host.overrides.find? f.name = some (.enabled (some payload)))

/-- `InForce manager host f` says that a filter of a host is in force with its own settings: the
connection manager holds a filter of its name that acts for it. -/
def InForce (manager : ConnectionManager) (host : VirtualHostMessage) (f : Filter) : Prop :=
  ∃ m ∈ manager.httpFilters, m.name = f.name ∧ ActsFor host f m.config

/-- `StandsFor g scope f` says that `g` may stand in the connection manager for the filter `f` of a
host: both come to the same there, or both are scripts. -/
def StandsFor (g : Filter) (scope : FilterScope) (f : Filter) : Prop :=
  g.kind = .lua ∧ f.kind = .lua ∨ g.chainConfig? scope = f.chainConfig? .virtualHost

/-- A filter of a host is `InForce` exactly if the filter that rules its name `StandsFor` it. -/
theorem inForce_iff {config : ProxyConfig} {hosts : List VirtualHost} {manager : ConnectionManager}
    (hmanager : manager.httpFilters = httpFilters (plainEntries config hosts)) {h : VirtualHost}
    (attachable : Attachable h.filters) {f : Filter} (hf : f ∈ h.filters) :
    InForce manager (h.message .plain) f ↔
      ∃ g scope, ruling? config hosts f.name = some (g, scope) ∧ StandsFor g scope f := by
  obtain ⟨settings, hsettings⟩ := attachable.settings f hf
  obtain ⟨hin, hoverride, hcarries⟩ := Filter.of_settings hsettings
  have hturned : (h.message .plain).overrides.find? f.name
      = some (.enabled (f.overrideConfig? .virtualHost)) :=
    find?_overrides attachable.distinct hf hoverride
  unfold InForce
  rw [hmanager, exists_httpFilter_iff (Q := ActsFor (h.message .plain) f) (by rintro ⟨⟨⟩, -⟩)]
  constructor
  · rintro ⟨g, scope, c, hruling, hconfig, hkind, hsame | ⟨payload, hpayload, -⟩⟩
    · exact ⟨g, scope, hruling, .inr (hconfig.trans hsame.symm)⟩
    · have hgkind : g.kind = f.kind :=
        Option.some.inj ((Filter.chainConfig?_kind? hconfig).symm.trans hkind)
      rcases hcarries.mp (by rw [hpayload]; rfl) with hlua | hcors
      · exact ⟨g, scope, hruling, .inl ⟨hgkind.trans hlua, hlua⟩⟩
      · -- a connection manager holds no settings of cross-origin policies
        obtain ⟨c', hown⟩ := Option.isSome_iff_exists.mp hin
        have hc := HttpFilterConfig.eq_cors_of_kind? (by rw [hkind, hcors])
        have hc' := HttpFilterConfig.eq_cors_of_kind? (by rw [Filter.chainConfig?_kind? hown, hcors])
        exact ⟨g, scope, hruling, .inr (by rw [hconfig, hown, hc, hc'])⟩
  · rintro ⟨g, scope, hruling, hstands⟩
    have hsome := List.find?_some hruling
    rw [Bool.and_eq_true] at hsome
    obtain ⟨c, hconfig⟩ := Option.isSome_iff_exists.mp hsome.2
    have hkind := Filter.chainConfig?_kind? hconfig
    refine ⟨g, scope, c, hruling, hconfig, ?_⟩
    rcases hstands with ⟨hglua, hlua⟩ | hsame
    · obtain ⟨payload, hpayload⟩ := Option.isSome_iff_exists.mp (hcarries.mpr (.inl hlua))
      exact ⟨by rw [hkind, hglua, hlua], .inr ⟨payload, hpayload, by rw [hturned, hpayload]⟩⟩
    · have hown : f.chainConfig? .virtualHost = some c := hsame.symm.trans hconfig
      exact ⟨Filter.chainConfig?_kind? hown, .inl hown⟩

/-! ### The connection manager of plain text -/

/-- `s.managersOf role` are the connection managers of the listener of `role`. -/
def Proxy.Snapshot.managersOf (s : Snapshot) (role : ListenerRole) : List ConnectionManager :=
  (((s.listeners.filter fun l => l.name = role.name).flatMap ListenerMessage.filterChains).flatMap
    FilterChain.filters).filterMap NetworkFilter.manager?

theorem Proxy.Snapshot.mem_managersOf {s : Snapshot} {role : ListenerRole}
    {manager : ConnectionManager} :
    manager ∈ s.managersOf role ↔ ∃ l ∈ s.listeners, l.name = role.name ∧
      ∃ chain ∈ l.filterChains, .connectionManager manager ∈ chain.filters := by
  have hmanager : ∀ filter : NetworkFilter,
      filter.manager? = some manager ↔ filter = .connectionManager manager := by
    intro filter
    cases filter <;> simp [NetworkFilter.manager?]
  simp only [managersOf, List.mem_filterMap, List.mem_flatMap, List.mem_filter, decide_eq_true_eq,
    hmanager]
  constructor
  · rintro ⟨_, ⟨chain, ⟨l, ⟨hl, hrole⟩, hchain⟩, hfilter⟩, rfl⟩
    exact ⟨l, hl, hrole, chain, hchain, hfilter⟩
  · rintro ⟨l, hl, hrole, chain, hchain, hfilter⟩
    exact ⟨_, ⟨chain, ⟨l, ⟨hl, hrole⟩, hchain⟩, hfilter⟩, rfl⟩

/-- In plain text there is one connection manager for all hosts, if there are hosts at all. -/
theorem managersOf_plain (config : ProxyConfig) {g : Graph} (hsome : g.plainHosts ≠ []) :
    ∃ manager, (g.snapshot config).managersOf .plain = [manager] ∧
      connectionManager .plain (plainEntries config g.plainHosts) config
        = .connectionManager manager := by
  refine ⟨_, ?_, rfl⟩
  have hplain : (plainPart config g.plainHosts).1 = [plainListener config g.plainHosts] := by
    unfold plainPart
    rw [if_neg (by simpa using hsome)]
  -- the part over TLS makes a listener of the other role only
  have hsecure : ((securePart config (g.servedHosts config)).1.filter
      fun l => l.name = ListenerRole.plain.name) = [] := by
    rw [List.filter_eq_nil_iff]
    intro l hl
    have hmem : l = secureListener config ((g.servedHosts config).map Prod.snd) := by
      unfold securePart at hl
      simp only at hl
      split at hl
      · cases hl
      · exact List.mem_singleton.mp hl
    have hname : ListenerRole.secure.name ≠ ListenerRole.plain.name := by decide
    simpa [hmem, secureListener] using hname
  unfold Snapshot.managersOf
  change (((((plainPart config g.plainHosts).1 ++ (securePart config (g.servedHosts config)).1).filter
    _).flatMap _).flatMap _).filterMap _ = _
  rw [List.filter_append, hsecure, hplain]
  rfl

/-- The filter of a host contends for its name, so that some filter rules the name. -/
theorem exists_ruling {config : ProxyConfig} {hosts : List VirtualHost} {h : VirtualHost}
    (hh : h ∈ hosts) {f : Filter} (hf : f ∈ h.filters) (hin : (f.chainConfig? .virtualHost).isSome) :
    ∃ g scope, ruling? config hosts f.name = some (g, scope) := by
  have hmem : (f, FilterScope.virtualHost) ∈ contenders config hosts :=
    List.mem_append_right _ (List.mem_flatMap.mpr
      ⟨h, hh, List.mem_append_left _ (List.mem_map.mpr ⟨f, hf, rfl⟩)⟩)
  have hsome : (ruling? config hosts f.name).isSome := by
    rw [ruling?, List.find?_isSome]
    exact ⟨_, hmem, by simp [hin]⟩
  obtain ⟨⟨g, scope⟩, hruling⟩ := Option.isSome_iff_exists.mp hsome
  exact ⟨g, scope, hruling⟩

namespace Build

section

variable {engine : Pattern.Engine} {cache : Cache}

/-- The filters of a host of a built graph are `Attachable`, in plain text and over TLS. -/
theorem attachable_of_hasHost {h : Host} (hh : (Graph.build cache).HasHost h) :
    Attachable h.virtualHost.filters := by
  obtain ⟨l, hl, hvalue⟩ := hh
  obtain ⟨⟨name, h⟩, hmem, rfl⟩ := List.mem_map.mp hvalue
  obtain ⟨overTls, hgrown⟩ := grown_of_mem_listeners hl (OrderedMap.find?_eq_some_of_mem hmem)
  exact hgrown.attachable

/-- The same for a host in plain text. -/
theorem attachable_of_mem_plainHosts {h : VirtualHost} (hh : h ∈ (Graph.build cache).plainHosts) :
    Attachable h.filters :=
  attachable_of_hasHost (Graph.mem_plainHosts.mp hh)

/-- **Which filters are in force.** One connection manager serves all hosts in plain text of a built
graph.  A host turns on the filters of the names of its own ones, and puts in their places what its
own ones say there.  Some filter rules the name, and the one of the host is in force with its own
settings if and only if the ruling one may stand for it. -/
theorem build_filters_inForce (config : ProxyConfig) {h : VirtualHost}
    (hh : h ∈ (Graph.build cache).plainHosts) :
    ∃ manager, ((Graph.build cache).snapshot config).managersOf .plain = [manager] ∧
      ServedBy ((Graph.build cache).snapshot config) (h.message .plain) manager ∧
      ∀ f ∈ h.filters,
        (h.message .plain).overrides.find? f.name
          = some (.enabled (f.overrideConfig? .virtualHost)) ∧
        ∃ g scope, ruling? config (Graph.build cache).plainHosts f.name = some (g, scope) ∧
          (InForce manager (h.message .plain) f ↔ StandsFor g scope f) := by
  have attachable := attachable_of_mem_plainHosts hh
  obtain ⟨manager, hmanager, hmade⟩ := managersOf_plain config (List.ne_nil_of_mem hh)
  have hfilters : manager.httpFilters =
      httpFilters (plainEntries config (Graph.build cache).plainHosts) := by
    cases hmade
    rfl
  refine ⟨manager, hmanager, ?_, fun f hf => ?_⟩
  · obtain ⟨l, hl, hrole, chain, hchain, hfilter⟩ := Snapshot.mem_managersOf.mp
      (show manager ∈ ((Graph.build cache).snapshot config).managersOf .plain by simp [hmanager])
    exact Rendered.servedBy (.plain (Graph.mem_plainHosts.mp hh) hl hrole hchain hfilter)
  · obtain ⟨settings, hsettings⟩ := attachable.settings f hf
    obtain ⟨hin, hoverride, -⟩ := Filter.of_settings hsettings
    -- a filter that stands in the list has something of its name that rules
    obtain ⟨g, scope, hruling⟩ := @exists_ruling config _ h hh f hf hin
    refine ⟨find?_overrides attachable.distinct hf hoverride, g, scope, hruling, ?_⟩
    rw [inForce_iff hfilters attachable hf]
    constructor
    · rintro ⟨g', scope', hruling', hstands⟩
      rw [hruling] at hruling'
      cases hruling'
      exact hstands
    · exact fun hstands => ⟨g, scope, hruling, hstands⟩

end

/-! ### Two filters of one name -/

/-- A route for all paths to a service. -/
def clashRoute : RouteSpec :=
  { apiRoute with
    conditions := []
    services := [⟨"app", 80, 1, none, none, none, none, none, []⟩] }

/-- A root of the domain name `fqdn` that serves all paths, and names a filter of its namespace. -/
def clashRoot (space fqdn : String) : GatewayHost where
  metadata := { name := some "site", space := some space }
  virtualHost := some ⟨fqdn, none, [⟨"shared", none⟩]⟩
  routes := [clashRoute]
  tcpProxy := none

/-- A service of a namespace. -/
def clashService (space : String) : Service :=
  ⟨{ name := some "app", space := some space }, none, none, [⟨none, 80⟩]⟩

/-- A cache with two roots in different namespaces, each of which names a filter of its own.  The one
bridges gRPC-Web, and the other one compresses. -/
def clashCache : Cache where
  gatewayHosts := .ofList [(⟨"a", "site"⟩, clashRoot "a" "a.test"),
    (⟨"b", "site"⟩, clashRoot "b" "b.test")]
  services := .ofList [(⟨"a", "app"⟩, clashService "a"), (⟨"b", "app"⟩, clashService "b")]
  httpFilters := .ofList [
    (⟨"a", "shared"⟩, ⟨{ name := some "shared", space := some "a" }, .grpcWeb, ""⟩),
    (⟨"b", "shared"⟩, ⟨{ name := some "shared", space := some "b" }, .compression, ""⟩)]

/-- The filter of the first root of `clashCache`. -/
def bridge : Filter := ⟨"shared", .grpcWeb, ""⟩

/-- The filter of the second root of `clashCache`. -/
def compressor : Filter := ⟨"shared", .compression, ""⟩

theorem clash_settings : bridge.settings .virtualHost = .ok .grpcWeb ∧
    compressor.settings .virtualHost = .ok (.compression ⟨none, [], none, false⟩) := by
  decide +kernel

/-- A reference to a filter object with settings in order means the filter. -/
theorem resolveFilter_eq_ok {scope : FilterScope} {space : String} {ref : FilterRef}
    {object : FilterObject} {s : FilterSettings}
    (hobject : cache.filterObject? scope (ref.target space) = some object)
    (hsettings : Filter.settings ⟨ref.name, object.kind, object.config⟩ scope = .ok s) :
    resolveFilter cache scope space ref = .ok ⟨ref.name, object.kind, object.config⟩ := by
  have hname : (ref.target space).name = ref.name := rfl
  unfold resolveFilter
  simp only [hobject, hname, hsettings]

theorem clash_filters :
    resolveFilters clashCache .virtualHost "a" [⟨"shared", none⟩] = ([bridge], []) ∧
    resolveFilters clashCache .virtualHost "b" [⟨"shared", none⟩] = ([compressor], []) := by
  have hfirst := @resolveFilter_eq_ok clashCache .virtualHost "a" ⟨"shared", none⟩
    ⟨{ name := some "shared", space := some "a" }, .grpcWeb, ""⟩ _ rfl clash_settings.1
  have hsecond := @resolveFilter_eq_ok clashCache .virtualHost "b" ⟨"shared", none⟩
    ⟨{ name := some "shared", space := some "b" }, .compression, ""⟩ _ rfl clash_settings.2
  unfold resolveFilters
  simp only [List.map_cons, List.map_nil, hfirst, hsecond]
  exact ⟨rfl, rfl⟩

theorem clash_walkSteps (space fqdn domain : String) :
    walkSteps clashCache ⟨space, "site"⟩ (clashRoot space fqdn) domain .off =
      [.serve (hostRef ⟨space, "site"⟩) clashRoute [], .accept ⟨space, "site"⟩] :=
  routeSteps_of_single rfl rfl

/-- Both roots get their hosts, each with its own filter. -/
theorem clash_plainHosts :
    ((Graph.build clashCache).plainHosts).map VirtualHost.filters = [[bridge], [compressor]] := by
  have first : Accepted clashCache ⟨"a", "site"⟩ (clashRoot "a" "a.test")
      ⟨"a.test", none, [⟨"shared", none⟩]⟩ .off := ⟨rfl, rfl, rfl, rfl⟩
  have second : Accepted clashCache ⟨"b", "site"⟩ (clashRoot "b" "b.test")
      ⟨"b.test", none, [⟨"shared", none⟩]⟩ .off := ⟨rfl, rfl, rfl, rfl⟩
  rw [plainHosts_build, buildAll_of_pair rfl first second]
  unfold Building.openRoot
  simp only [clash_filters.1, clash_filters.2, clash_walkSteps]
  rfl

theorem clash_chainConfig? : bridge.chainConfig? .virtualHost = some .grpcWeb ∧
    ∃ config, compressor.chainConfig? .virtualHost = some (.compressor config) := by
  unfold Filter.chainConfig?
  rw [clash_settings.1, clash_settings.2]
  exact ⟨rfl, _, rfl⟩

/-- The filter of the first root, `bridge`, rules the name. -/
theorem clash_ruling {first second : VirtualHost} (h : first.filters = [bridge]) :
    ruling? {} [first, second] "shared" = some (bridge, .virtualHost) := by
  have hcontends : contenders {} [first, second]
      = (bridge, .virtualHost) :: (contenders {} [first, second]).tail := by
    unfold contenders
    rw [List.flatMap_cons, VirtualHost.allFilters, h]
    rfl
  have hname : bridge.name = "shared" := rfl
  rw [ruling?, hcontends, List.find?_cons, clash_chainConfig?.1, hname]
  rfl

theorem clash_hosts : ∃ first second, (Graph.build clashCache).plainHosts = [first, second] ∧
    first.filters = [bridge] ∧ second.filters = [compressor] := by
  obtain ⟨first, rest, hhosts, hfirst, hrest⟩ := List.map_eq_cons_iff.mp clash_plainHosts
  obtain ⟨second, hsecond, hfilters⟩ := List.map_eq_singleton_iff.mp hrest
  exact ⟨first, second, by rw [hhosts, hsecond], hfirst, hfilters⟩

/-- The requests of the second root are not compressed: its host turns on the `bridge` of the first
one. -/
theorem clash_not_inForce :
    ¬ ∀ h ∈ (Graph.build clashCache).plainHosts, ∀ f ∈ h.filters,
      ∀ manager ∈ ((Graph.build clashCache).snapshot {}).managersOf .plain,
        InForce manager (h.message .plain) f := by
  intro hall
  obtain ⟨first, second, hhosts, hfirst, hsecond⟩ := clash_hosts
  have hmem : second ∈ (Graph.build clashCache).plainHosts := by simp [hhosts]
  have hf : compressor ∈ second.filters := by simp [hsecond]
  obtain ⟨manager, hmanager, hmade⟩ := managersOf_plain {} (List.ne_nil_of_mem hmem)
  have hfilters : manager.httpFilters = httpFilters (plainEntries {} [first, second]) := by
    cases hmade
    rw [hhosts]
  have hin := hall second hmem compressor hf manager (by simp [hmanager])
  rw [inForce_iff hfilters (attachable_of_mem_plainHosts hmem) hf] at hin
  -- the first host's filter rules under the name that both share
  obtain ⟨g, scope, hruling, hstands⟩ := hin
  rw [show compressor.name = "shared" from rfl, clash_ruling hfirst] at hruling
  cases hruling
  obtain ⟨hbridge, config, hcompressor⟩ := clash_chainConfig?
  rcases hstands with ⟨⟨⟩, -⟩ | hsame
  rw [hbridge, hcompressor] at hsame
  cases hsame

/-- The requests of the first root are bridged. -/
theorem clash_inForce : ∃ h ∈ (Graph.build clashCache).plainHosts, bridge ∈ h.filters ∧
    ∃ manager, ((Graph.build clashCache).snapshot {}).managersOf .plain = [manager] ∧
      InForce manager (h.message .plain) bridge := by
  obtain ⟨first, second, hhosts, hfirst, -⟩ := clash_hosts
  have hmem : first ∈ (Graph.build clashCache).plainHosts := by simp [hhosts]
  have hf : bridge ∈ first.filters := by simp [hfirst]
  obtain ⟨manager, hmanager, -, hall⟩ := build_filters_inForce {} hmem
  obtain ⟨-, g, scope, hruling, hin⟩ := hall bridge hf
  rw [hhosts, show bridge.name = "shared" from rfl, clash_ruling hfirst] at hruling
  cases hruling
  exact ⟨first, hmem, hf, manager, hmanager, hin.mpr (.inr rfl)⟩

end Build

end GatewayCompiler
