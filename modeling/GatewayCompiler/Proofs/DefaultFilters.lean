import GatewayCompiler.Proofs.ConnectionManagers

/-!
# Default filters on both listeners

The default filters stand in every connection manager.  Where several of them share a name, the first
one counts in plain text, as it does among all entries, and the last one counts over TLS, where the
defaults are merged with the filters of the host.

## Main definitions

* `ChainEntry.Ranked` — the place of an entry is that of its kind.
* `EndsAgree` — the first and the last filter of a name come to the same.

## Main statements

* `httpFilters_eq_iff` — connection managers with the same filters.
* `httpFilters_bare_iff` — when the listeners agree about the default filters.
* `Build.shop_defaults_differ` — an accepted configuration about which they do not.
-/

namespace GatewayCompiler

open Proxy

/-! ### Connection managers with the same filters -/

/-- `e.Ranked` says that the place of the entry `e` is that of the kind of its configuration. -/
def ChainEntry.Ranked (e : ChainEntry) : Prop :=
  ∃ kind, e.config.kind? = some kind ∧ kind.chainRank = some e.rank

theorem Filter.inChain?_ranked {f : Filter} {scope : FilterScope} {disabled : Bool} {e : ChainEntry}
    (h : f.inChain? scope disabled = some e) : e.Ranked := by
  obtain ⟨rank, hrank, h⟩ := Option.bind_eq_some_iff.mp h
  obtain ⟨config, hconfig, h⟩ := Option.bind_eq_some_iff.mp h
  cases h
  exact ⟨f.kind, chainConfig?_kind? hconfig, hrank⟩

theorem ranked_of_mem_entriesOf {disabled : Bool} {filters : List (Filter × FilterScope)}
    {e : ChainEntry} (he : e ∈ entriesOf disabled filters) : e.Ranked := by
  obtain ⟨p, -, hp⟩ := List.mem_filterMap.mp he
  exact Filter.inChain?_ranked hp

namespace ChainEntry.Ranked

variable {e e' : ChainEntry}

/-- An entry is determined by its message: the place of a `Ranked` entry can be told from the
configuration. -/
theorem eq_of_message_eq (h : e.Ranked) (h' : e'.Ranked) (hmessage : e.message = e'.message) :
    e = e' := by
  obtain ⟨kind, hkind, hrank⟩ := h
  obtain ⟨kind', hkind', hrank'⟩ := h'
  cases e
  cases e'
  cases hmessage
  have hsame := hkind.symm.trans hkind'
  cases hsame
  have hplace := hrank.symm.trans hrank'
  cases hplace
  rfl

/-- The router is not made from an entry, even if an entry has its name. -/
theorem message_ne_router (h : e.Ranked) : e.message ≠ ⟨routerName, false, .router⟩ := by
  intro heq
  have hconfig : e.config = .router := congrArg HttpFilterMessage.config heq
  obtain ⟨kind, hkind, -⟩ := h
  rw [hconfig] at hkind
  cases hkind

end ChainEntry.Ranked

theorem mem_of_chosen? {entries : List ChainEntry} {name : String} {e : ChainEntry}
    (h : chosen? entries name = some e) : e ∈ entries ∧ e.name = name := by
  rcases Option.or_eq_some_iff.mp h with h | ⟨-, h⟩
  · have hboth := List.find?_some h
    rw [Bool.and_eq_true, decide_eq_true_eq] at hboth
    exact ⟨List.mem_of_find?_eq_some h, hboth.1⟩
  · exact ⟨List.mem_of_find?_eq_some h, by simpa using List.find?_some h⟩

/-- Connection managers have the same filters if and only if the same entry, by `chosen?`, counts
under every name. -/
theorem httpFilters_eq_iff {entries entries' : List ChainEntry} (h : ∀ e ∈ entries, e.Ranked)
    (h' : ∀ e ∈ entries', e.Ranked) :
    httpFilters entries = httpFilters entries' ↔ ∀ name,
      (chosen? entries name).map ChainEntry.message
        = (chosen? entries' name).map ChainEntry.message := by
  constructor
  · -- what counts under a name is in the connection manager, and only there under this name
    have hkept : ∀ {xs ys : List ChainEntry}, (∀ e ∈ xs, e.Ranked) →
        httpFilters xs = httpFilters ys → ∀ name e, chosen? xs name = some e →
          ∃ e', chosen? ys name = some e' ∧ e'.message = e.message := by
      intro xs ys hxs heq name e he
      obtain ⟨hmem, rfl⟩ := mem_of_chosen? he
      have hthere : e.message ∈ httpFilters ys := heq ▸ mem_httpFilters.mpr (.inl ⟨e, he, rfl⟩)
      rcases mem_httpFilters.mp hthere with ⟨e', he', hmessage⟩ | hrouter
      · have hname : e'.name = e.name := congrArg HttpFilterMessage.name hmessage
        exact ⟨e', hname ▸ he', hmessage⟩
      · exact absurd hrouter (hxs e hmem).message_ne_router
    intro heq name
    cases he : chosen? entries name with
    | some e =>
      obtain ⟨e', he', hmessage⟩ := hkept h heq name e he
      rw [he', Option.map_some, Option.map_some, hmessage]
    | none =>
      cases he' : chosen? entries' name with
      | none => rfl
      | some e' =>
        obtain ⟨e, hfound, -⟩ := hkept h' heq.symm name e' he'
        rw [he] at hfound
        cases hfound
  · intro hall
    have hsame : selectEntries entries = selectEntries entries' := by
      refine OrderedMap.ext_find? fun name => ?_
      rw [find?_selectEntries, find?_selectEntries]
      have hmessages := hall name
      cases he : chosen? entries name with
      | none =>
        rw [he] at hmessages
        exact (Option.map_eq_none_iff.mp hmessages.symm).symm
      | some e =>
        rw [he] at hmessages
        obtain ⟨e', he', hmessage⟩ := Option.map_eq_some_iff.mp hmessages.symm
        have hranked := h e (mem_of_chosen? he).1
        have hranked' := h' e' (mem_of_chosen? he').1
        rw [he', hranked'.eq_of_message_eq hranked hmessage]
    unfold httpFilters
    rw [hsame]

/-! ### Hosts without filters -/

/-- `EndsAgree filters` says that the first and the last filter of each name come to the same in a
connection manager. -/
def EndsAgree (filters : List Filter) : Prop :=
  ∀ name, (filters.find? fun f => f.name = name).bind (·.chainConfig? .virtualHost)
    = (filters.reverse.find? fun f => f.name = name).bind (·.chainConfig? .virtualHost)

/-- Two filters of one name come to the same if `EndsAgree` holds of them. -/
theorem EndsAgree.of_pair {f g : Filter} (hname : f.name = g.name) (h : EndsAgree [f, g]) :
    f.chainConfig? .virtualHost = g.chainConfig? .virtualHost := by
  have hends := h f.name
  simpa [hname] using hends

/-- Where no host in plain text has filters, the first default filter of a name counts. -/
theorem chosen?_plainEntries_of_bare {config : ProxyConfig} {hosts : List VirtualHost}
    (bare : ∀ h ∈ hosts, h.allFilters = [])
    (hall : ∀ f ∈ config.defaultHttpFilters, (f.chainConfig? .virtualHost).isSome) (name : String) :
    (chosen? (plainEntries config hosts) name).map ChainEntry.message =
      ((config.defaultHttpFilters.find? fun f => f.name = name).bind
        (·.chainConfig? .virtualHost)).map (⟨name, false, ·⟩) := by
  have hnone : hosts.flatMap VirtualHost.allFilters = [] := List.flatMap_eq_nil_iff.mpr bare
  have hfirst : (config.defaultHttpFilters.find? fun f =>
      f.name = name && (f.chainConfig? .virtualHost).isSome)
        = config.defaultHttpFilters.find? fun f => f.name = name :=
    List.find?_congr fun f hf => by simp [hall f hf]
  rw [plainEntries_eq, chosen?_append (fun _ => disabled_of_mem_entriesOf)
    (fun _ => disabled_of_mem_entriesOf), hnone, entriesOf, entriesOf, List.filterMap_nil,
    List.append_nil, ← entriesOf, find?_entriesOf_message, List.find?_map, Option.bind_map]
  simp only [Function.comp_def, hfirst]

/-- Where a host over TLS has no filters, the last default filter of a name counts, since
`mergeByName` lets a later one replace an earlier one. -/
theorem SecureHost.chosen?_entries_of_bare {config : ProxyConfig} {h : SecureHost}
    (bare : h.host.allFilters = []) (name : String) :
    (chosen? (h.entries config) name).map ChainEntry.message =
      ((config.defaultHttpFilters.reverse.find? fun f => f.name = name).bind
        (·.chainConfig? .virtualHost)).map (⟨name, false, ·⟩) := by
  obtain ⟨hown, hroutes⟩ := List.append_eq_nil_iff.mp (h.host.allFilters_eq ▸ bare)
  rw [h.chosen?_entries, find?_mergeByName_flatten, List.map_eq_nil_iff.mp hown, hroutes]
  simp

/-- Without filters of hosts the connection managers of both listeners are made from the same
filters if and only if `EndsAgree` holds of the default filters. -/
theorem httpFilters_entries_eq_iff {config : ProxyConfig} {hosts : List VirtualHost}
    {h : SecureHost}
    (hall : ∀ f ∈ config.defaultHttpFilters, (f.chainConfig? .virtualHost).isSome)
    (bare : ∀ h ∈ hosts, h.allFilters = []) (bare' : h.host.allFilters = []) :
    httpFilters (plainEntries config hosts) = httpFilters (h.entries config) ↔
      EndsAgree config.defaultHttpFilters := by
  have hranked : ∀ on off, ∀ e ∈ entriesOf false on ++ entriesOf true off, e.Ranked := by
    intro on off e he
    rcases List.mem_append.mp he with he | he
    · exact ranked_of_mem_entriesOf he
    · exact ranked_of_mem_entriesOf he
  rw [httpFilters_eq_iff (by rw [plainEntries_eq]; exact hranked _ _)
    (by rw [SecureHost.entries_eq]; exact hranked _ _)]
  -- with nothing of their own the hosts leave both lists to the default filters
  refine forall_congr' fun name => ?_
  rw [chosen?_plainEntries_of_bare bare hall, SecureHost.chosen?_entries_of_bare bare']
  have hinjective : Function.Injective fun config => HttpFilterMessage.mk name false config := by
    rintro config config' ⟨⟩
    rfl
  exact (Option.map_injective hinjective).eq_iff

/-- **Default filters on both listeners.** The default filters of an accepted configuration come to
the same in plain text and over TLS, where hosts have no filters of their own, if and only if the
first and the last one of each name do. -/
theorem httpFilters_bare_iff {c : Config} (valid : c.validate = .ok ()) {g : Graph}
    {plain secure : ConnectionManager} {hosts hosts' : List VirtualHost}
    (hplain : Handles c.proxy g plain .plain hosts) (bare : ∀ h ∈ hosts, h.allFilters = [])
    (hsecure : Handles c.proxy g secure .secure hosts') (bare' : ∀ h ∈ hosts', h.allFilters = []) :
    plain.httpFilters = secure.httpFilters ↔ EndsAgree c.proxy.defaultHttpFilters := by
  cases hplain with
  | plain there =>
    cases hsecure with
    | secure host there' filter =>
      rw [Handles.httpFilters_plain there, Handles.httpFilters_secure there' filter]
      exact httpFilters_entries_eq_iff (Config.chainConfig?_of_validate valid) bare
        (bare' _ (List.mem_singleton_self _))

/-! ### Two default filters of one name -/

namespace Build

/-- The listeners agree about a single default filter, `bridge`. -/
theorem shop_defaults_agree : ∃ plain secure hosts hosts',
    Handles (defaultsConfig [bridge]).proxy (Graph.build shopCache) plain .plain hosts ∧
    Handles (defaultsConfig [bridge]).proxy (Graph.build shopCache) secure .secure hosts' ∧
    plain.httpFilters = secure.httpFilters := by
  obtain ⟨plain, secure, hosts, hosts', hplain, hsecure, bare, bare'⟩ :=
    shop_handles (defaultsConfig [bridge]).proxy
  exact ⟨plain, secure, hosts, hosts', hplain, hsecure,
    (httpFilters_bare_iff bridge_valid hplain bare hsecure bare').mpr fun _ => rfl⟩

/-- The first of two default filters of one name is in force in plain text, and the second one over
TLS. -/
theorem shop_defaults_differ :
    ¬ ∀ (c : Config), c.validate = .ok () → ∀ (g : Graph) (plain secure : ConnectionManager)
      (hosts hosts' : List VirtualHost), Handles c.proxy g plain .plain hosts →
      Handles c.proxy g secure .secure hosts' → (∀ h ∈ hosts, h.allFilters = []) →
      (∀ h ∈ hosts', h.allFilters = []) → plain.httpFilters = secure.httpFilters := by
  intro hall
  have valid : (defaultsConfig [bridge, compressor]).validate = .ok () := by
    refine defaultsConfig_valid fun f hf => ?_
    rcases List.mem_pair.mp hf with rfl | rfl
    · exact ⟨by decide, _, clash_settings.1⟩
    · exact ⟨by decide, _, clash_settings.2⟩
  obtain ⟨plain, secure, hosts, hosts', hplain, hsecure, bare, bare'⟩ :=
    shop_handles (defaultsConfig [bridge, compressor]).proxy
  have hsame := hall _ valid _ plain secure hosts hosts' hplain hsecure bare bare'
  cases hplain with
  | plain there =>
    cases hsecure with
    | secure host there' filter =>
      rw [Handles.httpFilters_plain there, Handles.httpFilters_secure there' filter,
        httpFilters_entries_eq_iff (Config.chainConfig?_of_validate valid) bare
          (bare' _ (List.mem_singleton_self _))] at hsame
      -- the bridge comes first, and the compressor last
      have hends := EndsAgree.of_pair (f := bridge) (g := compressor) rfl hsame
      obtain ⟨hbridge, config, hcompressor⟩ := clash_chainConfig?
      rw [hbridge, hcompressor] at hends
      cases hends

end Build

end GatewayCompiler
