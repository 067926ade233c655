import GatewayCompiler.Proofs.ConnectionManagers

/-!
# Accepted filters are rendered

The settings of a filter are read for the first time when the filter is attached, and again for every
message that the filter has a part in: for its entry in a connection manager, for what it changes on a
host, a route or a cluster, and for the action of a route.  The filter of a cluster is read at the scope
of routes for an action, although it was attached at another scope.  A filter whose settings cannot be
read there is left out of the message without a word to anybody but the log.  This never happens to a
filter that was accepted.

## Main definitions

* `Renders` — settings that were read once are rendered, and read again at the scope of routes.
* `Reading`, `Reading.error?` — what settings are read for, and the error that keeps a filter out.
* `Graph.readings` — all filters that are read when a graph is rendered.
* `Graph.RendersFilters` — the messages of a graph have all filters that ask for a part in them.

## Main statements

* `FilterSettings.parse_of_cluster` — settings of a cluster are also settings of other places.
* `Filter.inChain?_eq_none_iff`, `Filter.override?_eq_none_iff` — a filter has no part in a message
  where it is left out, or where its kind or its settings ask for none.
* `Route.rendersFilters`, `Build.build_rendersFilters` — what is read without an error is rendered.
* `Build.settings_of_mem_readings` — what is read for a built graph was accepted before.
* `Build.accepted_rendered` — no accepted filter is left out.
-/

namespace GatewayCompiler

open Proxy

/-! ### Settings at several scopes -/

namespace FilterSettings

variable {k : FilterKind} {scope : FilterScope} {text : String} {s : FilterSettings}

/-- Only rate limits are checked in different ways at different scopes: for every other kind
`parseAt` does not look at the scope. -/
theorem parseAt_congr (hk : k ≠ .rateLimit) (scope scope' : FilterScope) (text : String) :
    parseAt k scope text = parseAt k scope' text := by
  cases k with
  | rateLimit => exact absurd rfl hk
  | lua | compression | grpcWeb | cors | retry | timeout | hostHeader => rfl

/-- Settings of a cluster are settings of any place that filters of the kind are attached to,
`FilterKind.canAttachTo` as to `scope`.  A rate limit, which has to count something on a route but
not on a host, is not attached to clusters. -/
theorem parse_of_cluster (h : parse k .cluster text = .ok s) (hto : k.canAttachTo scope) :
    parse k scope text = .ok s := by
  have hattach := (checked_of_parse h).1
  have hk : k ≠ .rateLimit := by
    rintro rfl
    cases hattach
  rw [parse, if_pos hattach, parseAt_congr hk .cluster scope] at h
  exact (if_pos hto).trans h

/-- Settings of a route or of a cluster are read as the same settings on a route, where the
translation of an action reads them once more. -/
theorem parse_route (h : parse k scope text = .ok s) (hscope : scope ≠ .virtualHost) :
    parse k .route text = .ok s := by
  cases scope with
  | virtualHost => exact absurd rfl hscope
  | route => exact h
  | cluster => exact parse_of_cluster h rfl

end FilterSettings

/-- `Renders k scope text s` says that the settings `s`, which `text` stands for at `scope`, can be
rendered wherever they are read.  They come to something in a connection manager and on a host, a
route or a cluster, and a route reads the same settings again. -/
structure Renders (k : FilterKind) (scope : FilterScope) (text : String) (s : FilterSettings) :
    Prop where
  /-- They come to something in a connection manager, and on a host to a filter. -/
  chain : ∃ config, s.chainConfig = .ok config ∧ (scope = .virtualHost → config.isSome)
  /-- They come to something on a host, a route or a cluster. -/
  override : ∃ payload, s.overrideConfig = .ok payload
  /-- On a route they are the same. -/
  again : scope ≠ .virtualHost → FilterSettings.parse k .route text = .ok s

/-- **Accepted settings can be rendered.** What `FilterSettings.parse` accepts has passed the checks
of its kind, and each check rules out what would keep `chainConfig` or `overrideConfig` from an
answer. -/
theorem renders_of_parse {k : FilterKind} {scope : FilterScope} {text : String} {s : FilterSettings}
    (h : FilterSettings.parse k scope text = .ok s) : Renders k scope text s := by
  obtain ⟨hattach, hkind, hchecked⟩ := FilterSettings.checked_of_parse h
  obtain ⟨config, hconfig, hsome⟩ := hchecked.exists_chainConfig
  obtain ⟨payload, hpayload, -⟩ := hchecked.exists_overrideConfig
  refine ⟨⟨config, hconfig, ?_⟩, ⟨payload, hpayload⟩, FilterSettings.parse_route h⟩
  rintro rfl
  exact hsome rfl (hkind ▸ hattach)

/-! ### Filters that are left out -/

/-- `errorOf? x` is the error of a computation `x` that fails. -/
def errorOf? {ε α : Type} : Except ε α → Option ε
  | .error e => some e
  | .ok _ => none

/-- What the settings of a filter are read for.  The translation reads them up to three times, once
for each of these. -/
inductive Reading
  /-- An entry of a connection manager. -/
  | entry (scope : FilterScope)
  /-- What is changed on a host, a route or a cluster. -/
  | change (scope : FilterScope)
  /-- The action of a route. -/
  | action
  deriving DecidableEq, Repr

namespace Reading

/-- `reading.scope` is the scope at which settings are read.  For an action this is always the scope
of routes, even for a filter that was attached to a cluster. -/
def scope : Reading → FilterScope
  | .entry scope | .change scope => scope
  | .action => .route

/-- `reading.each filters` pairs each of `filters` with what it is read for. -/
def each (reading : Reading) (filters : List Filter) : List (Reading × Filter) :=
  filters.map (Prod.mk reading)

/-- `reading.error? f` is the error that keeps the filter `f` out of a message, if there is one.
Kinds that have no place in connection managers are only read for actions. -/
def error? (reading : Reading) (f : Filter) : Option FilterError :=
  match reading with
  | .entry scope =>
    if f.kind.isHttpFilter then
      errorOf? do
        let settings ← f.settings scope
        settings.chainConfig
    else none
  | .change scope =>
    if f.kind.isHttpFilter then
      errorOf? do
        let settings ← f.settings scope
        let config ← settings.chainConfig
        if config.isSome then settings.overrideConfig else return none
    else none
  | .action => errorOf? (f.settings .route)

theorem forall_mem_each {reading : Reading} {filters : List Filter} {P : Reading × Filter → Prop} :
    (∀ p ∈ reading.each filters, P p) ↔ ∀ f ∈ filters, P (reading, f) :=
  List.forall_mem_map

/-- A filter whose settings can be read at `reading.scope` is not left out, since settings that were
read can be rendered by `renders_of_parse`. -/
theorem error?_eq_none {reading : Reading} {f : Filter} {s : FilterSettings}
    (h : f.settings reading.scope = .ok s) : reading.error? f = none := by
  have hrenders := renders_of_parse h
  obtain ⟨config, hconfig, -⟩ := hrenders.chain
  obtain ⟨payload, hpayload⟩ := hrenders.override
  cases reading with
  | entry scope =>
    change f.settings scope = .ok s at h
    simp only [error?, h, hconfig, bind, Except.bind, errorOf?, ite_self]
  | change scope =>
    change f.settings scope = .ok s at h
    simp only [error?, h, hconfig, hpayload, bind, Except.bind]
    cases config <;> simp [errorOf?, pure, Except.pure]
  | action =>
    change f.settings .route = .ok s at h
    rw [error?, h, errorOf?]

end Reading

namespace Filter

/-- `f.MakesNone scope` says that the filter `f` asks for no part in connection managers: its kind
has no place there, or its settings are those of a route only. -/
def MakesNone (f : Filter) (scope : FilterScope) : Prop :=
  ¬ f.kind.isHttpFilter ∨ ∃ s, f.settings scope = .ok s ∧ s.chainConfig = .ok none

variable {f : Filter} {scope : FilterScope}

/-- A filter for which `Filter.inChain?` makes no entry is left out because of an error, or it asks
for none. -/
theorem inChain?_eq_none_iff {disabled : Bool} : f.inChain? scope disabled = none ↔
    ((Reading.entry scope).error? f).isSome ∨ f.MakesNone scope := by
  unfold inChain? MakesNone Reading.error? chainConfig? FilterKind.isHttpFilter
  cases f.kind.chainRank with
  | none => simp
  | some rank =>
    cases hsettings : f.settings scope with
    | error e => simp [errorOf?, bind, Except.bind, hsettings]
    | ok s =>
      cases hchain : s.chainConfig with
      | error e => simp [errorOf?, bind, Except.bind, hsettings, hchain]
      | ok config => cases config <;> simp [errorOf?, bind, Except.bind, hsettings, hchain]

/-- A filter for which `Filter.override?` says nothing is left out because of an error, or it has no
part in connection managers. -/
theorem override?_eq_none_iff : f.override? scope = none ↔
    ((Reading.change scope).error? f).isSome ∨ f.MakesNone scope := by
  unfold override? MakesNone Reading.error? chainConfig?
  by_cases hkind : f.kind.isHttpFilter
  · cases hsettings : f.settings scope with
    | error e => simp [errorOf?, bind, Except.bind, hkind, hsettings]
    | ok s =>
      cases hchain : s.chainConfig with
      | error e => simp [errorOf?, bind, Except.bind, hkind, hsettings, hchain]
      | ok config =>
        cases config <;> cases hoverride : s.overrideConfig <;>
          simp [errorOf?, bind, Except.bind, pure, Except.pure, hkind, hsettings, hchain, hoverride]
  · simp [hkind]

/-- Where `Reading.error?` finds nothing, a filter makes a configuration for connection managers or
asks for none. -/
theorem chainConfig?_isSome (h : (Reading.entry scope).error? f = none) :
    f.MakesNone scope ∨ (f.chainConfig? scope).isSome := by
  cases hentry : f.inChain? scope true with
  | none =>
    rcases inChain?_eq_none_iff.mp hentry with herror | hnone
    · rw [h] at herror
      cases herror
    · exact .inl hnone
  | some e =>
    right
    rw [← inChain?_eq f scope true, hentry]
    rfl

/-- Where `Reading.error?` finds nothing, one of `filters` is turned on under its name by
`overrides`, unless it asks for no part. -/
theorem contains_overrides {filters : List Filter} (hf : f ∈ filters)
    (h : (Reading.change scope).error? f = none) :
    f.MakesNone scope ∨ (overrides filters scope).contains f.name := by
  cases hoverride : f.override? scope with
  | none =>
    rcases override?_eq_none_iff.mp hoverride with herror | hnone
    · rw [h] at herror
      cases herror
    · exact .inl hnone
  | some change =>
    right
    have hmem : (f.name, change) ∈ filters.filterMap fun g => (g.override? scope).map (g.name, ·) :=
      List.mem_filterMap.mpr ⟨f, hf, by rw [hoverride]; rfl⟩
    exact OrderedMap.contains_ofList.mpr (List.mem_map_of_mem hmem)

end Filter

/-- Filters that can be read for an action change the action `a` as their settings say, each in its
turn: `applyFilter` comes to `applySettings`. -/
theorem foldl_applyFilter {filters : List Filter}
    (h : ∀ f ∈ filters, Reading.action.error? f = none) (a : RouteAction) :
    ∃ settings, List.Forall₂ (fun (f : Filter) s => f.settings .route = .ok s) filters settings ∧
      filters.foldl applyFilter a = settings.foldl applySettings a := by
  induction filters generalizing a with
  | nil => exact ⟨[], .nil, rfl⟩
  | cons f rest ih =>
    obtain ⟨hf, hrest⟩ := List.forall_mem_cons.mp h
    cases hs : f.settings .route with
    | error e =>
      -- bad settings are an error of the action, which `h` excludes
      rw [Reading.error?, hs, errorOf?] at hf
      cases hf
    | ok s =>
      obtain ⟨settings, hall, hfold⟩ := ih hrest (applyFilter a f)
      refine ⟨s :: settings, .cons hs hall, ?_⟩
      rw [List.foldl_cons, List.foldl_cons, hfold, applyFilter, hs]

/-! ### Rendering a graph -/

/-- `r.readings` are the filters that are read when the route `r` is rendered, its own ones and
those of its clusters, each with what it is read for. -/
def Route.readings (r : Route) : List (Reading × Filter) :=
  let behind := r.clusters.flatMap Cluster.filters
  (Reading.entry .route).each r.filters ++ (Reading.entry .cluster).each behind
    ++ (Reading.change .route).each r.filters ++ (Reading.change .cluster).each behind
    ++ Reading.action.each (r.filters ++ soleFilters r.clusters)

/-- `h.readings` are the filters that are read when the host `h` is rendered, with those of its
routes. -/
def VirtualHost.readings (h : VirtualHost) : List (Reading × Filter) :=
  (Reading.entry .virtualHost).each h.filters ++ (Reading.change .virtualHost).each h.filters
    ++ h.routes.values.flatMap Route.readings

/-- `g.readings config` are the filters that are read when the graph `g` is rendered: the defaults
of `config`, and those of all hosts, whether or not something is served for them. -/
def Graph.readings (config : ProxyConfig) (g : Graph) : List (Reading × Filter) :=
  (Reading.entry .virtualHost).each config.defaultHttpFilters
    ++ (g.listeners.flatMap fun l => l.hosts.values).flatMap fun h => h.virtualHost.readings

/-- Every filter of the route `r`, and every filter of a cluster behind it, has its part in the message
of the route, unless it asks for none. -/
structure Route.RendersFilters (r : Route) : Prop where
  /-- The route turns its own filters on. -/
  own : ∀ f ∈ r.filters, f.MakesNone .route ∨ r.overrides.contains f.name
  /-- If there is only one cluster, it turns on the filters of this cluster as well. -/
  sole : ∀ f ∈ soleFilters r.clusters, f.MakesNone .cluster ∨ r.overrides.contains f.name
  /-- What a cluster says about its filters where requests are split has all of them. -/
  split : ∀ c ∈ r.clusters, ∀ f ∈ c.filters,
    f.MakesNone .cluster ∨ (GatewayCompiler.overrides c.filters .cluster).contains f.name
  /-- The action is `Route.baseAction` with all that the settings of the filters change about it. -/
  action : ∃ settings, List.Forall₂ (fun (f : Filter) s => f.settings .route = .ok s)
      (r.filters ++ soleFilters r.clusters) settings ∧
    r.action = settings.foldl applySettings r.baseAction

/-- `g.RendersFilters config` says the same of the messages of the graph `g`: no filter is missing
from `Graph.snapshot` that asks for a part in it. -/
structure Graph.RendersFilters (config : ProxyConfig) (g : Graph) : Prop where
  /-- A connection manager holds a filter of the name of each default filter and of each filter of the
  hosts that it serves, of their routes and of the clusters behind them. -/
  managers : ∀ manager role hosts, Handles config g manager role hosts →
    ∀ p ∈ contenders config hosts,
      p.1.MakesNone p.2 ∨ p.1.name ∈ manager.httpFilters.map HttpFilterMessage.name
  /-- A host in plain text turns its filters on. -/
  hosts : ∀ h ∈ g.plainHosts, ∀ f ∈ h.filters,
    f.MakesNone .virtualHost ∨ (h.message .plain).overrides.contains f.name
  /-- The routes of all hosts do what their filters ask for. -/
  routes : ∀ h, g.HasHost h → ∀ r ∈ h.virtualHost.routes.values, r.RendersFilters

/-- The filters in `soleFilters clusters` are filters of one of `clusters`. -/
theorem mem_of_mem_soleFilters {clusters : List Cluster} {f : Filter} (h : f ∈ soleFilters clusters) :
    f ∈ clusters.flatMap Cluster.filters := by
  unfold soleFilters at h
  split at h
  · rwa [List.flatMap_singleton]
  · cases h

/-- A route whose `Route.readings` succeed has all of its filters in its message. -/
theorem Route.rendersFilters {r : Route} (h : ∀ p ∈ r.readings, p.1.error? p.2 = none) :
    r.RendersFilters := by
  unfold readings at h
  simp only [List.forall_mem_append, Reading.forall_mem_each] at h
  obtain ⟨⟨⟨-, hroute⟩, hclusters⟩, hown, hsole⟩ := h
  -- both kinds of filters stand in front of what the route changes itself
  have hcontains : ∀ {name : String}, name ∈ (GatewayCompiler.overrides r.filters .route).keys ∨
      name ∈ (GatewayCompiler.overrides (soleFilters r.clusters) .cluster).keys →
      r.overrides.contains name := by
    intro name hname
    unfold overrides
    rw [OrderedMap.contains_ofList, List.map_append, List.map_append, List.mem_append,
      List.mem_append]
    exact .inl hname
  refine ⟨fun f hf => ?_, fun f hf => ?_, fun c hc f hf => ?_,
    foldl_applyFilter (List.forall_mem_append.mpr ⟨hown, hsole⟩) r.baseAction⟩
  · refine (Filter.contains_overrides hf (hroute f hf)).imp_right fun hin => hcontains (.inl ?_)
    exact OrderedMap.contains_iff_mem_keys.mp hin
  · refine (Filter.contains_overrides hf (hclusters f (mem_of_mem_soleFilters hf))).imp_right
      fun hin => hcontains (.inr ?_)
    exact OrderedMap.contains_iff_mem_keys.mp hin
  · exact Filter.contains_overrides hf (hclusters f (List.mem_flatMap.mpr ⟨c, hc, hf⟩))

/-- What the host `h` puts into a connection manager, which is `h.allFilters`, is read for an entry
of it. -/
theorem VirtualHost.entry_mem_readings {h : VirtualHost} {p : Filter × FilterScope}
    (hp : p ∈ h.allFilters) : (Reading.entry p.2, p.1) ∈ h.readings := by
  unfold readings
  rcases List.mem_append.mp hp with hp | hp
  · obtain ⟨f, hf, rfl⟩ := List.mem_map.mp hp
    exact List.mem_append_left _ (List.mem_append_left _ (List.mem_map_of_mem hf))
  · obtain ⟨r, hr, hp⟩ := List.mem_flatMap.mp hp
    refine List.mem_append_right _ (List.mem_flatMap.mpr ⟨r, hr, ?_⟩)
    simp only [Route.readings, Reading.each, List.mem_append, List.mem_map, List.mem_flatMap] at hp ⊢
    rcases hp with ⟨f, hf, rfl⟩ | ⟨c, hc, f, hf, rfl⟩
    · exact .inl (.inl (.inl (.inl ⟨f, hf, rfl⟩)))
    · exact .inl (.inl (.inl (.inr ⟨f, ⟨c, hc, hf⟩, rfl⟩)))

/-- What is read for a host of `g` is read for `g`. -/
theorem Graph.readings_subset {config : ProxyConfig} (g : Graph) {h : Host} (hh : g.HasHost h) :
    h.virtualHost.readings ⊆ g.readings config := by
  obtain ⟨l, hl, hvalue⟩ := hh
  intro p hp
  exact List.mem_append_right _
    (List.mem_flatMap.mpr ⟨h, List.mem_flatMap.mpr ⟨l, hl, hvalue⟩, hp⟩)

/-- The hosts that a connection manager serves, as `Handles` says, are hosts of the graph. -/
theorem Handles.hasHost {config : ProxyConfig} {g : Graph} {manager : ConnectionManager}
    {role : ListenerRole} {hosts : List VirtualHost} (handles : Handles config g manager role hosts)
    {h : VirtualHost} (hh : h ∈ hosts) : ∃ host, g.HasHost host ∧ host.virtualHost = h := by
  cases handles with
  | plain there => exact ⟨.plain h, Graph.mem_plainHosts.mp hh, rfl⟩
  | @secure served chain host there filter =>
    rw [List.mem_singleton.mp hh]
    exact ⟨.secure served, host, rfl⟩

/-- Every filter that contends for a place in a connection manager, as listed by `contenders`, is
read for an entry of it. -/
theorem Handles.entry_mem_readings {config : ProxyConfig} {g : Graph} {manager : ConnectionManager}
    {role : ListenerRole} {hosts : List VirtualHost} (handles : Handles config g manager role hosts)
    {p : Filter × FilterScope} (hp : p ∈ contenders config hosts) :
    (Reading.entry p.2, p.1) ∈ g.readings config := by
  rcases List.mem_append.mp hp with hp | hp
  · obtain ⟨f, hf, rfl⟩ := List.mem_map.mp hp
    exact List.mem_append_left _ (List.mem_map_of_mem hf)
  · obtain ⟨h, hh, hp⟩ := List.mem_flatMap.mp hp
    obtain ⟨host, hhost, rfl⟩ := handles.hasHost hh
    exact g.readings_subset hhost (host.virtualHost.entry_mem_readings hp)

namespace Build

section

variable {engine : Pattern.Engine} {cache : Cache}

/-- `Attaches r` says that the filters of the route `r`, and those of the clusters behind it, were
read when they were attached. -/
structure Attaches (r : Route) : Prop where
  /-- The filters of the route. -/
  route : ∀ f ∈ r.filters, ∃ s, f.settings .route = .ok s
  /-- The filters of the clusters. -/
  cluster : ∀ f ∈ r.clusters.flatMap Cluster.filters, ∃ s, f.settings .cluster = .ok s

/-- The filters of a route that a host gets were read when they were attached: `resolveFilters`
keeps no others, and routes of ingresses have none. -/
theorem Attached.attaches {r : Route} (h : Attached cache r) : Attaches r := by
  cases h with
  | @entry offer route offered made resolved upgrade =>
    constructor
    · change ∀ f ∈ route.filters, _
      rw [resolved]
      exact fun f => settings_of_mem_resolveFilters
    · intro f hf
      obtain ⟨c, hc, hf⟩ := List.mem_flatMap.mp hf
      obtain ⟨found, -, hall⟩ := made.clusters
      obtain ⟨service, -, hbuilds⟩ := Builds.of_mem hall hc
      rw [hbuilds.filters] at hf
      exact settings_of_mem_resolveFilters hf
  | ingress => exact ⟨nofun, nofun⟩

/-- The routes of the hosts of a graph are routes that hosts get in the sense of `Attached`. -/
theorem attached_of_hasHost {h : Host} (hh : (Graph.build cache).HasHost h) {r : Route}
    (hr : r ∈ h.virtualHost.routes.values) : Attached cache r := by
  obtain ⟨l, hl, hvalue⟩ := hh
  obtain ⟨⟨name, h⟩, hmem, rfl⟩ := List.mem_map.mp hvalue
  obtain ⟨overTls, hgrown⟩ := grown_of_mem_listeners hl (OrderedMap.find?_eq_some_of_mem hmem)
  obtain ⟨⟨key, r⟩, hkey, rfl⟩ := List.mem_map.mp hr
  exact hgrown.routes.2 key r (OrderedMap.find?_eq_some_of_mem hkey)

/-- The filters that are read for a route can be read, those of a sole cluster by
`FilterSettings.parse_route`. -/
theorem Attaches.readings {r : Route} (h : Attaches r) :
    ∀ p ∈ r.readings, ∃ s, p.2.settings p.1.scope = .ok s := by
  unfold Route.readings
  simp only [List.forall_mem_append, Reading.forall_mem_each]
  refine ⟨⟨⟨⟨h.route, h.cluster⟩, h.route⟩, h.cluster⟩, h.route, fun f hf => ?_⟩
  -- an action reads the filters of the only cluster as if they were those of the route
  obtain ⟨s, hs⟩ := h.cluster f (mem_of_mem_soleFilters hf)
  exact ⟨s, FilterSettings.parse_route hs (by decide)⟩

/-- The filters that are read for a host of a graph can be read. -/
theorem settings_of_hasHost {h : Host} (hh : (Graph.build cache).HasHost h) :
    ∀ p ∈ h.virtualHost.readings, ∃ s, p.2.settings p.1.scope = .ok s := by
  have hsettings := (attachable_of_hasHost hh).settings
  unfold VirtualHost.readings
  simp only [List.forall_mem_append, Reading.forall_mem_each, List.forall_mem_flatMap]
  exact ⟨⟨hsettings, hsettings⟩, fun r hr => (attached_of_hasHost hh hr).attaches.readings⟩

/-- Every filter that is read for a built graph was accepted before, at the scope at which it is
read. -/
theorem settings_of_mem_readings {c : Config} (valid : c.validate = .ok ()) :
    ∀ p ∈ (Graph.build cache).readings c.proxy, ∃ s, p.2.settings p.1.scope = .ok s := by
  unfold Graph.readings
  rw [List.forall_mem_append, Reading.forall_mem_each, List.forall_mem_flatMap]
  constructor
  · intro f hf
    exact (Config.checkFilter_eq_ok_iff.mp ((Config.validate_eq_ok_iff.mp valid).2 f hf)).2
  · intro h hvalue
    exact settings_of_hasHost (List.mem_flatMap.mp hvalue)

/-- So nothing keeps a filter that is read for a built graph out of a message. -/
theorem error?_of_mem_readings {c : Config} (valid : c.validate = .ok ()) :
    ∀ p ∈ (Graph.build cache).readings c.proxy, p.1.error? p.2 = none := by
  intro p hp
  obtain ⟨s, hs⟩ := settings_of_mem_readings valid p hp
  exact Reading.error?_eq_none hs

/-- A built graph is rendered with all of its filters, and with the default filters of an accepted
configuration `c`. -/
theorem build_rendersFilters {c : Config} (valid : c.validate = .ok ()) :
    (Graph.build cache).RendersFilters c.proxy := by
  have hread : ∀ p ∈ (Graph.build cache).readings c.proxy, p.1.error? p.2 = none :=
    error?_of_mem_readings valid
  have hhost {h : Host} (hh : (Graph.build cache).HasHost h) :
      ∀ p ∈ h.virtualHost.readings, p.1.error? p.2 = none :=
    fun p hp => hread p ((Graph.build cache).readings_subset hh hp)
  constructor
  · intro manager role hosts handles p hp
    -- a filter that makes an entry has one, or its name is taken by one that has
    obtain ⟨entries, hfilters, hnames⟩ := exists_entries_of_handles valid handles
    rw [hfilters, mem_names_httpFilters, hnames]
    exact (Filter.chainConfig?_isSome (hread _ (handles.entry_mem_readings hp))).imp_right
      fun hsome => .inl ⟨p, hp, rfl, hsome⟩
  · intro h hh f hf
    have hchange : (Reading.change .virtualHost, f) ∈ h.readings :=
      List.mem_append_left _ (List.mem_append_right _ (List.mem_map_of_mem hf))
    exact Filter.contains_overrides hf (hhost (Graph.mem_plainHosts.mp hh) _ hchange)
  · intro h hh r hr
    exact Route.rendersFilters fun p hp =>
      hhost hh p (List.mem_append_right _ (List.mem_flatMap.mpr ⟨r, hr, hp⟩))

/-- Settings that are accepted for a filter can be rendered, and those of a route or a cluster are the
same settings when they are read for the route.  No filter of a built graph, and no default filter of
an accepted configuration, is therefore left out of a message: `Reading.error?` finds nothing wrong
with it where the graph is rendered, and the messages of the graph have all filters that ask for a
part in them. -/
theorem accepted_rendered [Pattern.Engine] :
    (∀ k scope text s, FilterSettings.parse k scope text = .ok s → Renders k scope text s) ∧
    ∀ (cache : Cache) (c : Config), c.validate = .ok () →
      (∀ p ∈ (Graph.build cache).readings c.proxy, p.1.error? p.2 = none) ∧
        (Graph.build cache).RendersFilters c.proxy :=
  ⟨fun _ _ _ _ => renders_of_parse, fun _ _ valid =>
    ⟨error?_of_mem_readings valid, build_rendersFilters valid⟩⟩

end

/-- A filter that could not be attached to a cluster would be left out there. -/
example : (Reading.change .cluster).error? ⟨"limit", .rateLimit, ""⟩
    = some (.wrongScope .rateLimit .cluster) := rfl

/-- `bridge` and `compressor` have the same settings on a service as on a host. -/
theorem clash_parse_cluster :
    FilterSettings.parse .grpcWeb .cluster "" = .ok .grpcWeb ∧
    FilterSettings.parse .compression .cluster "" = .ok (.compression ⟨none, [], none, false⟩) := by
  decide +kernel

/-- The filter `bridge` is accepted on a service, and where it is a default filter it is rendered
together with the filters of the two roots in `clashCache`. -/
theorem bridge_rendered :
    FilterSettings.parse .grpcWeb .cluster "" = .ok .grpcWeb ∧
    Renders .grpcWeb .cluster "" .grpcWeb ∧
    (defaultsConfig [bridge]).validate = .ok () ∧
    (∀ p ∈ (Graph.build clashCache).readings (defaultsConfig [bridge]).proxy,
      p.1.error? p.2 = none) ∧
    (Graph.build clashCache).RendersFilters (defaultsConfig [bridge]).proxy :=
  ⟨clash_parse_cluster.1, accepted_rendered.1 _ _ _ _ clash_parse_cluster.1, bridge_valid,
    accepted_rendered.2 clashCache _ bridge_valid⟩

end Build

end GatewayCompiler
