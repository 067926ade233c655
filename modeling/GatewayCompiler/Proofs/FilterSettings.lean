import GatewayCompiler.Render.FilterChain

/-!
# Settings that were accepted

Settings are checked when they are read, and once more when they are rendered.  The second check
finds nothing that the first one has not found.

## Main definitions

* `FilterSettings.kind`, `Proxy.HttpFilterConfig.kind?` — the kind that settings and messages belong
  to.
* `FilterSettings.Checked` — the check at a scope has found nothing.
* `Filter.overrideConfig?` — what a filter puts in the place of the configuration in a connection
  manager.

## Main statements

* `FilterSettings.checked_of_parse` — settings that were read are checked.
* `FilterSettings.Checked.exists_chainConfig`, `FilterSettings.Checked.exists_overrideConfig` —
  checked settings can be rendered.
* `Filter.of_settings` — what a filter of a host changes.
-/

namespace GatewayCompiler

open Proxy

/-- A computation that ends well did so at its first step, with the value `a` for the next one. -/
theorem exists_of_bind_eq_ok {ε α β : Type} {x : Except ε α} {f : α → Except ε β} {b : β}
    (h : x.bind f = .ok b) : ∃ a, x = .ok a ∧ f a = .ok b := by
  cases x with
  | error e => cases h
  | ok a => exact ⟨a, rfl, h⟩

/-- The value of a changed computation is that of the computation. -/
theorem exists_of_map_eq_ok {ε α β : Type} {x : Except ε α} {f : α → β} {b : β}
    (h : x.map f = .ok b) : ∃ a, x = .ok a ∧ f a = b := by
  cases x with
  | error e => cases h
  | ok a => exact ⟨a, rfl, Except.ok.inj h⟩

/-! ### Kinds -/

/-- `config.kind?` is the kind of filter that a configuration is for; the router has none. -/
def Proxy.HttpFilterConfig.kind? : HttpFilterConfig → Option FilterKind
  | .lua .. => some .lua
  | .compressor _ => some .compression
  | .grpcWeb => some .grpcWeb
  | .cors => some .cors
  | .rateLimit _ => some .rateLimit
  | .router => none

/-- Cross-origin policies have one configuration only in a connection manager. -/
theorem Proxy.HttpFilterConfig.eq_cors_of_kind? {config : HttpFilterConfig}
    (h : config.kind? = some .cors) : config = .cors := by
  cases config <;> cases h
  rfl

namespace FilterSettings

/-- `s.kind` is the kind that the settings `s` belong to. -/
def kind : FilterSettings → FilterKind
  | .lua _ => .lua
  | .compression _ => .compression
  | .grpcWeb => .grpcWeb
  | .cors _ => .cors
  | .rateLimit _ => .rateLimit
  | .retry _ => .retry
  | .timeout _ => .timeout
  | .hostHeader _ => .hostHeader

/-! ### Checks -/

/-- `s.Checked scope` says that the check of the settings `s` at `scope` has found nothing. -/
def Checked (scope : FilterScope) : FilterSettings → Prop
  | .lua s => s.validate = .ok ()
  | .compression s => s.validate = .ok ()
  | .cors s => s.validate = .ok ()
  | .rateLimit s =>
    (if scope = .route then s.validateRoute else s.validateFilter) = .ok ()
  | .grpcWeb | .retry _ | .timeout _ | .hostHeader _ => True

/-- Settings that a text stands for have the kind that was asked for, and they are `Checked`. -/
theorem checked_of_parseAt {k : FilterKind} {scope : FilterScope} {config : String}
    {s : FilterSettings} (h : parseAt k scope config = .ok s) : s.kind = k ∧ s.Checked scope := by
  -- every kind is decoded first
  cases k with
  | lua | compression | cors =>
    obtain ⟨decoded, -, h⟩ := exists_of_bind_eq_ok h
    obtain ⟨_, hcheck, h⟩ := exists_of_bind_eq_ok h
    cases h
    exact ⟨rfl, hcheck⟩
  | rateLimit =>
    obtain ⟨decoded, -, h⟩ := exists_of_bind_eq_ok h
    simp only at h
    split at h
    · next hroute =>
      obtain ⟨_, hcheck, h⟩ := exists_of_bind_eq_ok h
      cases h
      exact ⟨rfl, by rw [Checked, if_pos hroute, hcheck]⟩
    · next hroute =>
      obtain ⟨_, hcheck, h⟩ := exists_of_bind_eq_ok h
      cases h
      exact ⟨rfl, by rw [Checked, if_neg hroute, hcheck]⟩
  | hostHeader =>
    obtain ⟨decoded, -, h⟩ := exists_of_bind_eq_ok h
    simp only at h
    split at h
    · cases h
    · cases h
      exact ⟨rfl, trivial⟩
  | grpcWeb | retry | timeout =>
    obtain ⟨decoded, -, h⟩ := exists_of_bind_eq_ok h
    cases h
    exact ⟨rfl, trivial⟩

/-- Settings that were read may stand at their scope, and they are `Checked` there. -/
theorem checked_of_parse {k : FilterKind} {scope : FilterScope} {config : String}
    {s : FilterSettings} (h : parse k scope config = .ok s) :
    k.canAttachTo scope ∧ s.kind = k ∧ s.Checked scope := by
  unfold parse at h
  split at h
  · next hattach => exact ⟨hattach, checked_of_parseAt h⟩
  · cases h

end FilterSettings

/-! ### Rendering -/

/-- Settings that describe a filter do so by a domain and a service, which are the `filterParts`. -/
theorem RateLimitSettings.exists_filterParts {s : RateLimitSettings} (h : s.validateFilter = .ok ()) :
    ∃ parts, s.filterParts = .ok parts := by
  obtain ⟨parts, hparts, -⟩ := exists_of_bind_eq_ok h
  exact ⟨parts, hparts⟩

/-- Settings with a domain and a service describe a filter. -/
theorem RateLimitSettings.hasService_of_filterParts {s : RateLimitSettings}
    {parts : String × RateLimitService} (h : s.filterParts = .ok parts) : s.hasService := by
  unfold filterParts at h
  cases hdomain : s.domain with
  | none => simp [hdomain] at h
  | some domain => simp [hasService, hdomain]

/-- What a route counts describes a filter if it begins to: with a service, the check for routes is
that for filters. -/
theorem RateLimitSettings.validateFilter_of_validateRoute {s : RateLimitSettings}
    (h : s.validateRoute = .ok ()) (hservice : s.hasService) : s.validateFilter = .ok () := by
  unfold validateRoute at h
  simp only [hservice, if_true] at h
  split at h
  · cases h
  · obtain ⟨_, -, h⟩ := exists_of_bind_eq_ok h
    exact h

/-- A rate limit that describes a filter can be rendered. -/
theorem RateLimitSettings.exists_chainConfig {s : RateLimitSettings} (h : s.validateFilter = .ok ()) :
    ∃ config, s.chainConfig = .ok (.rateLimit config) := by
  obtain ⟨parts, hparts⟩ := exists_filterParts h
  unfold chainConfig
  rw [h, hparts]
  exact ⟨_, rfl⟩

/-- The origins of a checked policy can be compared with: `originMatcher` refuses none of them. -/
theorem CorsSettings.exists_mapM_originMatcher {s : CorsSettings} (h : s.validate = .ok ()) :
    ∃ matchers, s.allowOrigin.mapM originMatcher = .ok matchers := by
  unfold validate at h
  simp only at h
  split at h
  · cases h
  · obtain ⟨matchers, hmatchers, -⟩ := exists_of_bind_eq_ok h
    exact ⟨matchers, hmatchers⟩

/-- A checked policy can be rendered. -/
theorem CorsSettings.exists_overrideConfig {s : CorsSettings} (h : s.validate = .ok ()) :
    ∃ policy, s.overrideConfig = .ok (.cors policy) := by
  obtain ⟨matchers, hmatchers⟩ := exists_mapM_originMatcher h
  unfold overrideConfig
  rw [h, hmatchers]
  exact ⟨_, rfl⟩

namespace FilterSettings

variable {scope : FilterScope} {s : FilterSettings}

/-- What settings come to in a connection manager is of their kind. -/
theorem chainConfig_kind? {config : HttpFilterConfig} (h : s.chainConfig = .ok (some config)) :
    config.kind? = some s.kind := by
  cases s with
  | lua s | compression s =>
    obtain ⟨_, hconfig, heq⟩ := exists_of_map_eq_ok h
    cases heq
    obtain ⟨_, -, hconfig⟩ := exists_of_bind_eq_ok hconfig
    cases hconfig
    rfl
  -- without a service a rate limit has no configuration at all
  | rateLimit s =>
    change (if s.hasService then s.chainConfig.map some else .ok none) = _ at h
    split at h
    · obtain ⟨_, hconfig, heq⟩ := exists_of_map_eq_ok h
      cases heq
      obtain ⟨_, -, hconfig⟩ := exists_of_bind_eq_ok hconfig
      obtain ⟨_, -, hconfig⟩ := exists_of_bind_eq_ok hconfig
      cases hconfig
      rfl
    · cases h
  | grpcWeb | cors =>
    cases h
    rfl
  | retry | timeout | hostHeader => cases h

namespace Checked

/-- Checked settings can be rendered in a connection manager.  On a host, they make a filter if
filters of their kind may be attached there. -/
theorem exists_chainConfig (h : s.Checked scope) : ∃ config, s.chainConfig = .ok config ∧
    (scope = .virtualHost → s.kind.canAttachTo .virtualHost → config.isSome) := by
  cases s with
  | lua s =>
    have hconfig : s.chainConfig = .ok (.lua s.inlineCode (s.statPrefix.getD "")) := by
      unfold LuaSettings.chainConfig
      rw [show s.validate = .ok () from h]
      rfl
    exact ⟨_, by rw [chainConfig, hconfig]; rfl, fun _ _ => rfl⟩
  | compression s =>
    have hconfig : ∃ config, s.chainConfig = .ok config := by
      unfold CompressionSettings.chainConfig
      rw [show s.validate = .ok () from h]
      exact ⟨_, rfl⟩
    obtain ⟨config, hconfig⟩ := hconfig
    exact ⟨_, by rw [chainConfig, hconfig]; rfl, fun _ _ => rfl⟩
  | rateLimit s =>
    rw [chainConfig]
    split
    -- a route's settings that name a service are complete, as on a host
    · next hservice =>
      have hvalid : s.validateFilter = .ok () := by
        rw [Checked] at h
        split at h
        · exact RateLimitSettings.validateFilter_of_validateRoute h hservice
        · exact h
      obtain ⟨config, hconfig⟩ := RateLimitSettings.exists_chainConfig hvalid
      exact ⟨_, by rw [hconfig]; rfl, fun _ _ => rfl⟩
    · next hservice =>
      refine ⟨none, rfl, ?_⟩
      rintro rfl -
      obtain ⟨parts, hparts⟩ := RateLimitSettings.exists_filterParts h
      exact absurd (RateLimitSettings.hasService_of_filterParts hparts) hservice
  | grpcWeb | cors => exact ⟨_, rfl, fun _ _ => rfl⟩
  | retry | timeout | hostHeader => exact ⟨none, rfl, by rintro - ⟨⟩⟩

/-- Checked settings can be rendered on a host, a route or a cluster.  Scripts and cross-origin
policies stand there themselves, and nothing else does. -/
theorem exists_overrideConfig (h : s.Checked scope) : ∃ config, s.overrideConfig = .ok config ∧
    (config.isSome ↔ s.kind = .lua ∨ s.kind = .cors) := by
  cases s with
  | lua s =>
    have hconfig : s.overrideConfig = .ok (.lua s.inlineCode) := by
      unfold LuaSettings.overrideConfig
      rw [show s.validate = .ok () from h]
      rfl
    exact ⟨_, by rw [overrideConfig, hconfig]; rfl, by simp [kind]⟩
  | cors s =>
    obtain ⟨policy, hpolicy⟩ := CorsSettings.exists_overrideConfig h
    exact ⟨_, by rw [overrideConfig, hpolicy]; rfl, by simp [kind]⟩
  | compression | grpcWeb | rateLimit | retry | timeout | hostHeader =>
    exact ⟨none, rfl, by simp [kind]⟩

end Checked

end FilterSettings

/-! ### Filters -/

namespace Filter

variable {f : Filter} {scope : FilterScope}

/-- `f.overrideConfig? scope` is what the filter `f` puts in the place of the configuration in a
connection manager, if anything. -/
def overrideConfig? (f : Filter) (scope : FilterScope) : Option OverrideConfig :=
  match f.settings scope with
  | .error _ => none
  | .ok settings =>
    match settings.overrideConfig with
    | .error _ => none
    | .ok config => config

/-- What a filter comes to in a connection manager is of its kind, `f.kind`. -/
theorem chainConfig?_kind? {config : HttpFilterConfig} (h : f.chainConfig? scope = some config) :
    config.kind? = some f.kind := by
  unfold chainConfig? at h
  split at h
  · cases h
  · next settings hsettings =>
    split at h
    · cases h
    · next hconfig =>
      subst h
      rw [FilterSettings.chainConfig_kind? hconfig]
      exact congrArg some (FilterSettings.checked_of_parse hsettings).2.1

/-- A filter makes an entry if its settings make a filter, and then with the configuration of that
filter. -/
theorem inChain?_eq (f : Filter) (scope : FilterScope) (disabled : Bool) :
    (f.inChain? scope disabled).map ChainEntry.config = f.chainConfig? scope := by
  cases hconfig : f.chainConfig? scope with
  | none => simp [inChain?, hconfig]
  | some config =>
    have hkind := chainConfig?_kind? hconfig
    cases hrank : f.kind.chainRank with
    | none =>
      -- kinds without a rank have no configuration
      cases hf : f.kind <;> rw [hf] at hrank hkind <;> cases hrank <;> cases config <;> cases hkind
    | some rank => simp [inChain?, hconfig, hrank]

/-- The entry of a filter has its name and is on or off as it was asked for. -/
theorem inChain?_name {disabled : Bool} {e : ChainEntry} (h : f.inChain? scope disabled = some e) :
    e.name = f.name ∧ e.disabled = disabled := by
  obtain ⟨rank, -, h⟩ := Option.bind_eq_some_iff.mp h
  obtain ⟨config, -, h⟩ := Option.bind_eq_some_iff.mp h
  cases h
  exact ⟨rfl, rfl⟩

/-- A filter whose settings may stand on a host is a filter of the connection manager, which the
host turns on, with what the filter puts in the place of the configuration there. -/
theorem of_settings {settings : FilterSettings} (h : f.settings .virtualHost = .ok settings) :
    (f.chainConfig? .virtualHost).isSome ∧
    f.override? .virtualHost = some (.enabled (f.overrideConfig? .virtualHost)) ∧
    -- parsing has checked the settings already, so both renderings succeed
    ((f.overrideConfig? .virtualHost).isSome ↔ f.kind = .lua ∨ f.kind = .cors) := by
  obtain ⟨hattach, hkind, hchecked⟩ := FilterSettings.checked_of_parse h
  obtain ⟨config, hconfig, hsome⟩ := hchecked.exists_chainConfig
  obtain ⟨payload, hpayload, hcarries⟩ := hchecked.exists_overrideConfig
  have hchain : f.chainConfig? .virtualHost = config := by
    simp [chainConfig?, h, hconfig]
  have hoverride : f.overrideConfig? .virtualHost = payload := by
    simp [overrideConfig?, h, hpayload]
  have hin : config.isSome := hsome rfl (by rw [hkind]; exact hattach)
  refine ⟨by rw [hchain]; exact hin, ?_, by rw [hoverride, hcarries, hkind]⟩
  have hhttp : f.kind.isHttpFilter := hattach
  rw [override?, if_pos ⟨hhttp, by rw [hchain]; exact hin⟩, h, hoverride]
  simp [hpayload]

end Filter

end GatewayCompiler
