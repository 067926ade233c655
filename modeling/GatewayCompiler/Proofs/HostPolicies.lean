import GatewayCompiler.Proofs.HostFilters

/-!
# Cross-origin policies of hosts

The connection manager holds an empty filter for a cross-origin policy, and the policy itself is told
where it applies.  In plain text a host tells the policies of its filters.  Over TLS the filters of a
host are in the connection manager of its own chain, and the host tells nothing about them, so that an
empty filter is all that is left of a policy there.

## Main statements

* `SecureHost.mem_httpFilters_entries` — the filters of a host in the connection manager of its chain.
* `find?_overrides_policy_iff` — a host tells a policy on the listener in plain text only.
* `partners_policy_lost` — a policy that is told nowhere on the TLS listener.
-/

namespace GatewayCompiler

open Proxy

variable {h : VirtualHost} {f : Filter} {s : FilterSettings}

/-! ### Settings of a policy -/

/-- The settings of a cross-origin policy come to an empty filter in a connection manager and to the
`policy` where it applies. -/
theorem Filter.policy_of_settings (hkind : f.kind = .cors)
    (hs : f.settings .virtualHost = .ok s) :
    f.chainConfig? .virtualHost = some .cors ∧
    ∃ policy, s.overrideConfig = .ok (some (.cors policy)) ∧
      f.override? .virtualHost = some (.enabled (some (.cors policy))) := by
  obtain ⟨-, hown, hchecked⟩ := FilterSettings.checked_of_parse hs
  obtain ⟨hin, hoverride, -⟩ := Filter.of_settings hs
  have hchain : f.chainConfig? .virtualHost = some .cors := by
    obtain ⟨config, hconfig⟩ := Option.isSome_iff_exists.mp hin
    have hcors : config.kind? = some .cors := by rw [chainConfig?_kind? hconfig, hkind]
    rw [hconfig, HttpFilterConfig.eq_cors_of_kind? hcors]
  refine ⟨hchain, ?_⟩
  -- settings of another kind are not read for this one
  cases s with
  | cors settings =>
    obtain ⟨policy, hpolicy⟩ := CorsSettings.exists_overrideConfig hchecked
    have hconfig : (FilterSettings.cors settings).overrideConfig = .ok (some (.cors policy)) := by
      rw [FilterSettings.overrideConfig, hpolicy]
      rfl
    have hpayload : f.overrideConfig? .virtualHost = some (.cors policy) := by
      simp only [overrideConfig?, hs, hconfig]
    exact ⟨policy, hconfig, by rw [hoverride, hpayload]⟩
  | lua | compression | grpcWeb | rateLimit | retry | timeout | hostHeader =>
    rw [hkind] at hown
    cases hown

/-! ### The connection manager of a chain -/

/-- A filter of a host over TLS goes before the `defaults` of its name. -/
theorem find?_mergeByName (defaults : List Filter) (hf : f ∈ h.filters)
    (alone : ∀ g ∈ h.filters, g.name = f.name → g = f) :
    (mergeByName [defaults, h.filters]).find? f.name = some f := by
  have hlayers : (mergeByName [defaults, h.filters]) = OrderedMap.ofList
      (defaults.map (fun g => (g.name, g)) ++ h.filters.map fun g => (g.name, g)) := by
    simp [mergeByName]
  rw [hlayers]
  refine OrderedMap.find?_ofList_append _ (List.mem_map.mpr ⟨f, hf, rfl⟩) ?_
  intro other hother
  obtain ⟨g, hg, heq⟩ := List.mem_map.mp hother
  obtain ⟨hname, rfl⟩ := Prod.mk.inj heq
  exact alone g hg hname

theorem mergeByName_keyedBy (layers : List (List Filter)) :
    (mergeByName layers).KeyedBy Filter.name := by
  unfold mergeByName OrderedMap.ofList
  refine List.foldlRecOn (motive := fun m : OrderedMap String Filter => m.KeyedBy Filter.name) _ _
    .empty ?_
  intro m hm p hp
  obtain ⟨g, -, rfl⟩ := List.mem_map.mp hp
  exact hm.insert rfl

/-- Among layers of filters the last one of a name counts, so that a later layer goes before an
earlier one. -/
theorem find?_mergeByName_flatten (layers : List (List Filter)) (name : String) :
    (mergeByName layers).find? name = layers.flatten.reverse.find? fun g => g.name = name := by
  rw [mergeByName, OrderedMap.find?_ofList, ← List.map_reverse, List.find?_map, Option.map_map]
  exact Option.map_id'

/-- The entries of a host over TLS: those of the defaults and of its own filters are on, and those
of its routes are off. -/
theorem SecureHost.entries_eq (config : ProxyConfig) (secure : SecureHost) :
    secure.entries config =
      entriesOf false ((mergeByName [config.defaultHttpFilters, secure.host.filters]).values.map
        (·, .virtualHost)) ++ entriesOf true secure.host.routeFilters := by
  rw [SecureHost.entries, VirtualHost.routeEntries_eq]
  unfold entriesOf
  rw [List.filterMap_map]
  rfl

/-- The filter of a name in the connection manager of a host over TLS is that of the defaults and of
the host that is left after merging, and is on, or else the first one of its routes, and is off. -/
theorem SecureHost.chosen?_entries (config : ProxyConfig) (secure : SecureHost) (name : String) :
    (chosen? (secure.entries config) name).map ChainEntry.message =
      ((((mergeByName [config.defaultHttpFilters, secure.host.filters]).find? name).bind
        (·.chainConfig? .virtualHost)).map (⟨name, false, ·⟩)).or
      (((secure.host.routeFilters.find? fun p => p.1.name = name &&
        (p.1.chainConfig? p.2).isSome).bind fun p => p.1.chainConfig? p.2).map (⟨name, true, ·⟩)) := by
  rw [SecureHost.entries_eq, chosen?_append (fun _ => disabled_of_mem_entriesOf)
    (fun _ => disabled_of_mem_entriesOf), List.find?_append, Option.map_or, find?_entriesOf_message,
    find?_entriesOf_message, List.find?_map]
  have hmerged := (mergeByName_keyedBy [config.defaultHttpFilters, secure.host.filters]).find?_values
    name fun g => (g.chainConfig? .virtualHost).isSome
  simp only [Function.comp_def, Option.bind_map, hmerged]
  congr 2
  cases (mergeByName [config.defaultHttpFilters, secure.host.filters]).find? name with
  | none => rfl
  | some g => cases hconfig : g.chainConfig? .virtualHost <;> simp [Option.filter, hconfig]

/-- The connection manager of a host over TLS holds what a filter of the host comes to there, and it
is on. -/
theorem SecureHost.mem_httpFilters_entries {secure : SecureHost} (config : ProxyConfig)
    (hf : f ∈ secure.host.filters) (alone : ∀ g ∈ secure.host.filters, g.name = f.name → g = f)
    {c : HttpFilterConfig} (hc : f.chainConfig? .virtualHost = some c) :
    (⟨f.name, false, c⟩ : HttpFilterMessage) ∈ httpFilters (secure.entries config) := by
  have hchosen := secure.chosen?_entries config f.name
  rw [find?_mergeByName config.defaultHttpFilters hf alone, Option.bind_some, hc] at hchosen
  obtain ⟨e, he, hmessage⟩ := Option.map_eq_some_iff.mp hchosen
  have hname : e.name = f.name := congrArg HttpFilterMessage.name hmessage
  exact mem_httpFilters.mpr (.inl ⟨e, by rw [hname]; exact he, hmessage⟩)

/-! ### Both listeners -/

/-- **Where policies are told.** A host tells a cross-origin policy of its filters in plain text,
and nothing about its filters over TLS.  The connection manager of a chain then holds the empty
filter only. -/
theorem find?_overrides_policy_iff (hf : f ∈ h.filters) (hkind : f.kind = .cors)
    (hs : f.settings .virtualHost = .ok s) (alone : ∀ g ∈ h.filters, g.name = f.name → g = f) :
    ∃ policy, s.overrideConfig = .ok (some (.cors policy)) ∧
      (∀ role, (h.message role).overrides.find? f.name
        = some (.enabled (some (.cors policy))) ↔ role = .plain) ∧
      (h.message .secure).overrides.find? f.name = none ∧
      ∀ (config : ProxyConfig) (secure : SecureHost), secure.host = h →
        (⟨f.name, false, .cors⟩ : HttpFilterMessage) ∈ httpFilters (secure.entries config) := by
  obtain ⟨hchain, policy, hpolicy, hoverride⟩ := Filter.policy_of_settings hkind hs
  refine ⟨policy, hpolicy, ?_, rfl, ?_⟩
  · intro role
    cases role with
    | plain => exact iff_of_true (find?_overrides_of_alone hf alone hoverride) rfl
    | secure => exact iff_of_false (by rintro ⟨⟩) (by rintro ⟨⟩)
  · rintro config secure rfl
    exact secure.mem_httpFilters_entries config hf alone hchain

/-! ### A policy that is lost -/

/-- A policy for one origin. -/
def partnersFilter : Filter := ⟨"partners", .cors, "allow_origin: [partner.test]"⟩

/-- A host with the policy `partnersFilter`. -/
def partnersHost : VirtualHost := { name := "shop.test", filters := [partnersFilter] }

/-- The settings that the text of `partnersFilter` stands for. -/
def partnersSettings : CorsSettings where
  allowOrigin := ["partner.test"]
  allowMethods := []
  allowHeaders := []
  exposeHeaders := []
  maxAge := none
  allowCredentials := false

theorem partners_settings :
    partnersFilter.settings .virtualHost = .ok (.cors partnersSettings) := by
  decide +kernel

/-- The only filter of the host is told in plain text, and is an empty filter of the chain. -/
theorem partners_policy_plain :
    partnersFilter ∈ partnersHost.filters ∧ ∃ policy,
      (FilterSettings.cors partnersSettings).overrideConfig = .ok (some (.cors policy)) ∧
      (∀ role, (partnersHost.message role).overrides.find? "partners"
        = some (.enabled (some (.cors policy))) ↔ role = .plain) ∧
      (partnersHost.message .secure).overrides.find? "partners" = none ∧
      ∀ (config : ProxyConfig) (secure : SecureHost), secure.host = partnersHost →
        (⟨"partners", false, .cors⟩ : HttpFilterMessage) ∈ httpFilters (secure.entries config) := by
  have hf : partnersFilter ∈ partnersHost.filters := List.mem_singleton_self _
  have alone : ∀ g ∈ partnersHost.filters, g.name = partnersFilter.name → g = partnersFilter :=
    fun g hg _ => List.mem_singleton.mp hg
  exact ⟨hf, find?_overrides_policy_iff hf rfl partners_settings alone⟩

/-- Over TLS the policy does not reach the host. -/
theorem partners_policy_lost :
    ¬ ∀ (h : VirtualHost) (role : ListenerRole), ∀ f ∈ h.filters, f.kind = .cors →
      (∃ s, f.settings .virtualHost = .ok s) → (∀ g ∈ h.filters, g.name = f.name → g = f) →
      ∃ policy, (h.message role).overrides.find? f.name
        = some (.enabled (some (.cors policy))) := by
  intro hall
  have hf : partnersFilter ∈ partnersHost.filters := List.mem_singleton_self _
  obtain ⟨policy, htold⟩ := hall partnersHost .secure partnersFilter hf rfl ⟨_, partners_settings⟩
    fun g hg _ => List.mem_singleton.mp hg
  cases htold

end GatewayCompiler
