import GatewayCompiler.Proofs.Building
import GatewayCompiler.Proofs.Delegation.Forwarding
import GatewayCompiler.Proofs.Delegation.Merging

/-!
# What roots do to a build

A root is accepted if it shares its domain name with no other root and its TLS settings are in
order, which only depends on the cache.  An accepted root has either its connections forwarded or
its routes served, and each of the two is a walk over the hosts that it delegates to.

## Main definitions

* `TlsResult`, `RootResult` — what the TLS settings of a root and its whole check come to.
* `rootMode` — how a root is decrypted, as the cache alone tells.
* `Accepted` — a root is served.
* `TlsMode.forwards` — the connections of a root are forwarded.
* `rootSteps` — what is done for a root.
* `Building.Added` — what becomes of a build when a host is looked at as a root.

## Main statements

* `tlsMode_result`, `checkRoot_result` — the check of a root, by what the cache holds.
* `checkRoot_answers` — what is remembered does not matter for the check of a root.
* `rootMode_certificate` — the certificate that an accepted root is served with.
* `Building.addRoot_follows`, `buildAll_follows` — a build does the steps of its roots.
-/

namespace GatewayCompiler.Build

variable {engine : Pattern.Engine} {cache : Cache}

/-! ### Which roots are accepted -/

/-- `namedSecret? tls` is the secret that the TLS settings `tls` name, unless its name is blank. -/
def namedSecret? (tls : TlsSpec) : Option String :=
  tls.secretName.filter fun name => !Text.isBlankText name

/-- `TlsResult cache space tls? result` says why the TLS settings `tls?` of an object of a namespace
come to `result`.  There is a rule for each way in which they can. -/
inductive TlsResult (cache : Cache) (space : String) :
    Option TlsSpec → Except Problem TlsMode → Prop
  /-- There are no settings. -/
  | off : TlsResult cache space none (.ok .off)
  /-- They name a secret and ask for connections to be passed on. -/
  | both {tls : TlsSpec} {reference : String} (named : namedSecret? tls = some reference)
      (passthrough : tls.passthrough = true) :
      TlsResult cache space (some tls) (.error .secretAndPassthrough)
  /-- They do neither. -/
  | neither {tls : TlsSpec} (nameless : namedSecret? tls = none)
      (passthrough : tls.passthrough = false) : TlsResult cache space (some tls) (.error .emptyTls)
  /-- They ask for connections to be passed on. -/
  | passed {tls : TlsSpec} (nameless : namedSecret? tls = none)
      (passthrough : tls.passthrough = true) : TlsResult cache space (some tls) (.ok .passthrough)
  /-- The secret is missing, or it holds no certificate with its key. -/
  | missing {tls : TlsSpec} {reference : String} (named : namedSecret? tls = some reference)
      (keypair : cache.keypair? (.ofReference reference space) = none) :
      TlsResult cache space (some tls) (.error (.badSecret (.ofReference reference space)))
  /-- The secret may not be used there. -/
  | forbidden {tls : TlsSpec} {reference : String} (named : namedSecret? tls = some reference)
      (permits : ¬ cache.permits (.ofReference reference space) space) :
      TlsResult cache space (some tls) (.error (.secretNotPermitted (.ofReference reference space)))
  /-- The secret holds a certificate that may be used there. -/
  | terminated {tls : TlsSpec} {reference : String} {certificate : KeyMaterial}
      (named : namedSecret? tls = some reference) (passthrough : tls.passthrough = false)
      (keypair : cache.keypair? (.ofReference reference space) = some certificate)
      (permits : cache.permits (.ofReference reference space) space) :
      TlsResult cache space (some tls) (.ok (.terminate certificate (.ofText tls.minVersion)))

theorem tlsMode_result (space : String) (tls? : Option TlsSpec) :
    OneSecret cache (TlsResult cache space tls?) (tlsMode cache space tls?).run := by
  cases tls? with
  | none => exact .answered .off
  | some tls =>
    unfold tlsMode
    simp only
    split
    · next named passthrough => exact .answered (.both named passthrough)
    · next nameless passthrough => exact .answered (.neither nameless passthrough)
    · next nameless passthrough => exact .answered (.passed nameless passthrough)
    · next reference named passthrough =>
      refine .filteredLift _ KeyMaterial.hasKeypair fun found => ?_
      cases found with
      | none => exact ⟨_, rfl, fun keypair => .missing named keypair.symm⟩
      | some certificate =>
        simp only
        split
        · next permits =>
          exact ⟨_, rfl, fun keypair => .terminated named passthrough keypair.symm permits⟩
        · next permits => exact ⟨_, rfl, fun _ => .forbidden named permits⟩

/-- `RootResult cache root v result` says why the check of a root comes to `result`: for one of the
reasons that lie in the root itself, or else by its TLS settings. -/
inductive RootResult (cache : Cache) (root : Identity) (v : VirtualHostSpec) :
    Except Problem TlsMode → Prop
  /-- The root stands in a namespace for other things. -/
  | outside (space : ¬ cache.config.isRootNamespace root.space) :
      RootResult cache root v (.error .rootNamespace)
  /-- It has no domain name. -/
  | blank (domain : v.domain = "") : RootResult cache root v (.error .noFqdn)
  /-- Its domain name has a star, and there are TLS settings. -/
  | wildcard (star : v.domain.toList.contains '*' ∧ v.tls.isSome) :
      RootResult cache root v (.error (.wildcardTls v.domain))
  /-- Only its TLS settings are left to decide. -/
  | settled {result : Except Problem TlsMode} (space : cache.config.isRootNamespace root.space)
      (domain : v.domain ≠ "") (star : ¬ (v.domain.toList.contains '*' ∧ v.tls.isSome))
      (settings : TlsResult cache root.space v.tls result) : RootResult cache root v result

/-- The check of a root looks up the secret that is named, and nothing else. -/
theorem checkRoot_result (root : Identity) (v : VirtualHostSpec) :
    OneSecret cache (RootResult cache root v) (checkRoot cache root v).run := by
  unfold checkRoot
  simp only
  split
  · next space => exact .answered (.outside space)
  · next space =>
    have space : cache.config.isRootNamespace root.space := by simpa using space
    split
    · next domain => exact .answered (.blank domain)
    · next domain =>
      split
      · next star => exact .answered (.wildcard star)
      · next star =>
        exact (tlsMode_result root.space v.tls).mono fun _ => .settled space domain star

/-- `rootMode cache identity v` is how the connections to a root are decrypted, as it is found when
nothing is remembered. -/
def rootMode (cache : Cache) (identity : Identity) (v : VirtualHostSpec) : Except Problem TlsMode :=
  ((checkRoot cache identity v).run.run {}).1

/-- What is remembered does not matter for the check of a root: it looks up secrets only. -/
theorem checkRoot_answers (identity : Identity) (v : VirtualHostSpec) :
    Answers cache (checkRoot cache identity v).run (· = rootMode cache identity v) :=
  (checkRoot_result identity v).determined.answers

theorem rootMode_result (cache : Cache) (root : Identity) (v : VirtualHostSpec) :
    RootResult cache root v (rootMode cache root v) :=
  ((checkRoot_result root v).answers {} .empty).1

/-- `NamesCertificate cache space tls certificate minVersion` says that the TLS settings of an
object of a namespace name a certificate that may be used there. -/
structure NamesCertificate (cache : Cache) (space : String) (tls : TlsSpec)
    (certificate : KeyMaterial) (minVersion : MinTlsVersion) : Prop where
  /-- The certificate is the cached one that the reference means, and it may be used. -/
  reference : ∃ reference, tls.secretName = some reference ∧ ¬ Text.isBlankText reference ∧
    cache.keypair? (.ofReference reference space) = some certificate ∧
    cache.permits (.ofReference reference space) space
  /-- The lowest TLS version is the one of its name. -/
  minVersion : minVersion = .ofText tls.minVersion

/-- A root that is decrypted with a certificate names it and may use it. -/
theorem rootMode_certificate {root : Identity} {v : VirtualHostSpec} {certificate : KeyMaterial}
    {minVersion : MinTlsVersion}
    (h : rootMode cache root v = .ok (.terminate certificate minVersion)) :
    ∃ tls, v.tls = some tls ∧ NamesCertificate cache root.space tls certificate minVersion := by
  have hresult := rootMode_result cache root v
  rw [h] at hresult
  cases hresult with
  | settled space domain star settings =>
    generalize v.tls = tls? at settings
    cases settings with
    | terminated named passthrough keypair permits =>
      obtain ⟨named, blank⟩ := Option.filter_eq_some_iff.mp named
      exact ⟨_, rfl, ⟨_, named, by simpa using blank, keypair, permits⟩, rfl⟩

theorem mem_sharers {hosts : OrderedMap Identity GatewayHost} {fqdn : String} {i : Identity} :
    i ∈ sharers hosts fqdn ↔
      ∃ host v, hosts.find? i = some host ∧ host.virtualHost = some v ∧ v.domain = fqdn := by
  unfold sharers
  rw [List.mem_filterMap]
  -- a sharer is a root with the very name; other hosts are dropped
  constructor
  · rintro ⟨⟨j, host⟩, hmem, hsome⟩
    have hfind := OrderedMap.find?_eq_some_of_mem hmem
    cases hv : host.virtualHost with
    | none => simp [hv] at hsome
    | some v =>
      by_cases hdomain : v.domain = fqdn
      · simp only [hv, Option.bind_eq_bind, Option.bind_some, hdomain, if_true,
          Option.some.injEq] at hsome
        subst hsome
        exact ⟨host, v, hfind, hv, hdomain⟩
      · simp [hv, hdomain] at hsome
  · rintro ⟨host, v, hfind, hv, hdomain⟩
    exact ⟨(i, host), OrderedMap.mem_of_find?_eq_some hfind, by simp [hv, hdomain]⟩

/-- `Accepted cache root host v mode` says that a root is served: no other root has its domain name,
and it is in order, so that `mode` is how its connections are decrypted. -/
structure Accepted (cache : Cache) (root : Identity) (host : GatewayHost) (v : VirtualHostSpec)
    (mode : TlsMode) : Prop where
  /-- It is there. -/
  found : cache.gatewayHosts.find? root = some host
  /-- It is a root. -/
  virtualHost : host.virtualHost = some v
  /-- It is the only root of its domain name. -/
  alone : sharers cache.gatewayHosts v.domain = [root]
  /-- It is in order. -/
  mode : rootMode cache root v = .ok mode

/-- A root is the only one of its domain name, unless there are several `sharers`. -/
theorem sharers_eq_singleton {root : Identity} {host : GatewayHost} {v : VirtualHostSpec}
    (hfound : cache.gatewayHosts.find? root = some host) (hv : host.virtualHost = some v)
    (hfew : ¬ 1 < (sharers cache.gatewayHosts v.domain).length) :
    sharers cache.gatewayHosts v.domain = [root] := by
  have hmem : root ∈ sharers cache.gatewayHosts v.domain := mem_sharers.mpr ⟨host, v, hfound, hv, rfl⟩
  match hlist : sharers cache.gatewayHosts v.domain with
  | [] => simp [hlist] at hmem
  | [i] =>
    rw [hlist, List.mem_singleton] at hmem
    rw [hmem]
  | i :: j :: rest => simp [hlist] at hfew

/-! ### What is done for a root -/

/-- `mode.forwards host` says that connections are decrypted or passed on, so that they may be
forwarded. -/
def TlsMode.forwards (mode : TlsMode) (host : GatewayHost) : Bool :=
  match mode with
  | .off => false
  | .terminate .. | .passthrough => host.tcpProxy.isSome

/-- `mode.enforcesTls` says that the routes are served over TLS. -/
def TlsMode.enforcesTls : TlsMode → Bool
  | .terminate .. => true
  | .off | .passthrough => false

/-- `serveSteps cache root host fqdn` are the steps for the routes of a root, with those for service
routes at the end. -/
def serveSteps [Pattern.Engine] (cache : Cache) (root : Identity) (host : GatewayHost)
    (fqdn : String) : List Step :=
  routeSteps cache.gatewayHosts (mergeSteps cache.serviceRoutes fqdn) [root] root [] host.routes

/-- `forwardSteps cache root host` are the steps for the forwarding of a root. -/
def forwardSteps (cache : Cache) (root : Identity) (host : GatewayHost) : List Step :=
  tcpSteps cache.gatewayHosts [root] root host.tcpProxy

/-- `filterProblems cache root host v mode` are the problems with the filters of a root, where it
has any. -/
def filterProblems (cache : Cache) (root : Identity) (host : GatewayHost) (v : VirtualHostSpec)
    (mode : TlsMode) : List Problem :=
  match mode with
  | .off | .terminate .. => (resolveFilters cache .virtualHost root.space v.filters).2
  | .passthrough =>
    if host.tcpProxy.isSome then []
    else (resolveFilters cache .virtualHost root.space v.filters).2

/-- `walkSteps cache root host fqdn mode` is the walk of a root in order, over its routes or its
forwarding. -/
def walkSteps [Pattern.Engine] (cache : Cache) (root : Identity) (host : GatewayHost) (fqdn : String)
    (mode : TlsMode) : List Step :=
  if mode.forwards host then forwardSteps cache root host else serveSteps cache root host fqdn

/-- `sharerSteps cache root` is the report on a root that shares its domain name. -/
def sharerSteps (cache : Cache) (root : Identity × GatewayHost) : List Step :=
  match root.2.virtualHost with
  | none => []
  | some v =>
    let members := sharers cache.gatewayHosts v.domain
    if 1 < members.length then [.reject root.1 (.duplicateFqdn v.domain members)] else []

/-- `rootSteps cache root` are the steps for a root: none, the report that refuses it, or its
walk. -/
def rootSteps [Pattern.Engine] (cache : Cache) (root : Identity × GatewayHost) : List Step :=
  match root.2.virtualHost with
  | none => []
  | some v =>
    if 1 < (sharers cache.gatewayHosts v.domain).length then []
    else
      match rootMode cache root.1 v with
      | .error problem => [.reject root.1 problem]
      | .ok mode =>
        Building.reportSteps (hostRef root.1) (filterProblems cache root.1 root.2 v mode) ++
          walkSteps cache root.1 root.2 v.domain mode

namespace Building

/-- What is done for a root in order before its walk: its hosts are made, and the problems with its
filters are reported. -/
def openRoot (cache : Cache) (root : Identity) (host : GatewayHost) (v : VirtualHostSpec)
    (mode : TlsMode) (b : Building) : Building :=
  let (filters, problems) := resolveFilters cache .virtualHost root.space v.filters
  match mode with
  | .off => (b.report (hostRef root) problems v.domain).onPlainHost v.domain (·.addFilters filters)
  | .terminate certificate minVersion =>
    let b := (b.report (hostRef root) problems v.domain).onSecureHost v.domain fun h =>
      { host := h.host.addFilters filters, certificate := some certificate, minVersion }
    if host.tcpProxy.isSome then b else b.onPlainHost v.domain (·.addFilters filters)
  | .passthrough =>
    let b := b.onSecureHost v.domain id
    if host.tcpProxy.isSome then b
    else (b.report (hostRef root) problems v.domain).onPlainHost v.domain (·.addFilters filters)

/-- A root in order is served by a walk, `walkSteps`, after it is opened. -/
theorem enterRoot_eq (root : Identity) (host : GatewayHost) (v : VirtualHostSpec)
    (mode : TlsMode) (b : Building) :
    b.enterRoot cache root host v mode
      = (b.openRoot cache root host v mode).takeAll cache ⟨v.domain, mode.enforcesTls⟩
          (walkSteps cache root host v.domain mode) := by
  -- both sides branch on the mode alike, and each branch is the same term
  unfold enterRoot openRoot walkSteps TlsMode.forwards
  cases mode with
  | off => rfl
  | terminate certificate minVersion =>
    simp only
    split
    · rfl
    · rfl
  | passthrough =>
    simp only
    split
    · rfl
    · rfl

/-- The problems with the filters of a root are reported before its walk. -/
theorem openRoot_follows (root : Identity) (host : GatewayHost) (v : VirtualHostSpec)
    (mode : TlsMode) (b : Building) :
    Follows cache (reportSteps (hostRef root) (filterProblems cache root host v mode)) b
      (b.openRoot cache root host v mode) := by
  unfold openRoot filterProblems
  generalize resolveFilters cache .virtualHost root.space v.filters = found
  obtain ⟨filters, problems⟩ := found
  have hreport := @report_follows cache (hostRef root) problems v.domain b
  -- opening a host settles nothing; only the report does
  cases mode with
  | off =>
    have hopen := hreport.append (onPlainHost_follows v.domain (·.addFilters filters) _)
    rwa [List.append_nil] at hopen
  | terminate certificate minVersion =>
    have hsecure := hreport.append (onSecureHost_follows v.domain (fun h =>
      { host := h.host.addFilters filters, certificate := some certificate, minVersion }) _)
    rw [List.append_nil] at hsecure
    simp only
    split
    · exact hsecure
    · have hopen := hsecure.append (onPlainHost_follows v.domain (·.addFilters filters) _)
      rwa [List.append_nil] at hopen
  | passthrough =>
    have hsecure := @onSecureHost_follows cache v.domain id b
    simp only
    split
    · exact hsecure
    · have hreport' := hsecure.append (report_follows (hostRef root) problems v.domain _)
      have hopen := hreport'.append (onPlainHost_follows v.domain (·.addFilters filters) _)
      rwa [List.append_nil] at hopen

/-- An accepted root is served after its check, which may change what is remembered. -/
theorem addRoot_eq [Pattern.Engine] {root : Identity} {host : GatewayHost} {v : VirtualHostSpec} {mode : TlsMode}
    (h : Accepted cache root host v mode) {b : Building} (hb : b.lookups.Sound cache) :
    b.addRoot cache (root, host)
      = ((b.look (checkRoot cache root v).run).2.openRoot cache root host v mode).takeAll cache
          ⟨v.domain, mode.enforcesTls⟩ (walkSteps cache root host v.domain mode) := by
  have hmode := look_answer (checkRoot_answers root v) hb
  rw [h.mode] at hmode
  unfold addRoot
  simp only [h.virtualHost, h.alone, List.length_singleton, Nat.lt_irrefl, if_false]
  rw [← enterRoot_eq]
  generalize b.look (checkRoot cache root v).run = found at hmode ⊢
  obtain ⟨mode', b'⟩ := found
  subst hmode
  rfl

theorem reportSharers_follows (b : Building) (root : Identity × GatewayHost) :
    Follows cache (sharerSteps cache root) b (b.reportSharers cache root) := by
  unfold reportSharers sharerSteps
  cases root.2.virtualHost with
  | none => exact .refl b
  | some v =>
    simp only
    split
    · exact settle_follows _ _ _ _
    · exact .refl b

theorem addRoot_follows [Pattern.Engine] (b : Building) (root : Identity × GatewayHost)
    (hb : b.lookups.Sound cache) :
    Follows cache (rootSteps cache root) b (b.addRoot cache root) := by
  unfold addRoot rootSteps
  cases root.2.virtualHost with
  | none => exact .refl b
  | some v =>
    simp only
    split
    · exact .refl b
    · have hlook := look_follows (@checkRoot_answers cache root.1 v) b
      have hmode := look_answer (checkRoot_answers root.1 v) hb
      generalize b.look (checkRoot cache root.1 v).run = found at hmode hlook ⊢
      obtain ⟨mode, b'⟩ := found
      change mode = rootMode cache root.1 v at hmode
      -- the steps were defined with the mode that the check gives, so the two branch alike
      subst hmode
      cases rootMode cache root.1 v with
      | error problem => exact hlook.append (settle_follows _ _ _ _)
      | ok mode =>
        simp only
        rw [enterRoot_eq]
        exact (hlook.append (openRoot_follows _ _ _ _ _)).append (takeAll_follows _ _ _)

/-- `Added cache root host b b'` says what becomes of the build `b` when a host is looked at as a
root. -/
inductive Added [Pattern.Engine] (cache : Cache) (root : Identity) (host : GatewayHost)
    (b : Building) : Building → Prop
  /-- It is no root. -/
  | noRoot (virtualHost : host.virtualHost = none) : Added cache root host b b
  /-- It shares its domain name. -/
  | shared {v : VirtualHostSpec} (virtualHost : host.virtualHost = some v)
      (many : 1 < (sharers cache.gatewayHosts v.domain).length) : Added cache root host b b
  /-- It is not in order. -/
  | refused {v : VirtualHostSpec} {problem : Problem} {lookups : Lookups}
      (virtualHost : host.virtualHost = some v)
      (alone : sharers cache.gatewayHosts v.domain = [root])
      (mode : rootMode cache root v = .error problem) (sound : lookups.Sound cache) :
      Added cache root host b
        (settle (hostRef root) (.invalid problem) v.domain { b with lookups })
  /-- It is served. -/
  | served {v : VirtualHostSpec} {mode : TlsMode} {lookups : Lookups}
      (accepted : Accepted cache root host v mode) (sound : lookups.Sound cache) :
      Added cache root host b
        ((openRoot cache root host v mode { b with lookups }).takeAll cache
          ⟨v.domain, mode.enforcesTls⟩ (walkSteps cache root host v.domain mode))

theorem addRoot_added [Pattern.Engine] {root : Identity} {host : GatewayHost}
    (hfound : cache.gatewayHosts.find? root = some host) {b : Building}
    (hb : b.lookups.Sound cache) : Added cache root host b (b.addRoot cache (root, host)) := by
  cases hv : host.virtualHost with
  | none =>
    have hsame : b.addRoot cache (root, host) = b := by
      unfold addRoot
      simp only [hv]
    rw [hsame]
    exact .noRoot hv
  | some v =>
    -- a shared name leaves the root alone; otherwise the check decides
    by_cases hmany : 1 < (sharers cache.gatewayHosts v.domain).length
    · have hsame : b.addRoot cache (root, host) = b := by
        unfold addRoot
        simp only [hv, hmany, if_true]
      rw [hsame]
      exact .shared hv hmany
    · have halone := sharers_eq_singleton hfound hv hmany
      obtain ⟨hmode, hsound⟩ := checkRoot_answers root v b.lookups hb
      cases hresult : rootMode cache root v with
      | ok mode =>
        have accepted : Accepted cache root host v mode := ⟨hfound, hv, halone, hresult⟩
        rw [addRoot_eq accepted hb]
        exact .served accepted hsound
      | error problem =>
        have hrefused : b.addRoot cache (root, host) = settle (hostRef root) (.invalid problem)
            v.domain { b with lookups := ((checkRoot cache root v).run.run b.lookups).2 } := by
          rw [hresult] at hmode
          unfold addRoot
          simp only [hv, hmany, if_false]
          change (match ((checkRoot cache root v).run.run b.lookups).1 with
            | .error problem => _
            | .ok mode => _) = _
          rw [hmode]
          rfl
        rw [hrefused]
        exact .refused hv halone hresult hsound

end Building

/-! ### What is done for all roots -/

/-- `allSteps cache` are the steps for all roots, the reports on shared names first. -/
def allSteps [Pattern.Engine] (cache : Cache) : List Step :=
  cache.gatewayHosts.toList.flatMap (sharerSteps cache) ++
    cache.gatewayHosts.toList.flatMap (rootSteps cache)

/-- The roots that share a domain name are reported after the orphans are held. -/
theorem sortHosts_follows (hsound : (holdOrphans cache (addIngresses cache)).lookups.Sound cache) :
    Follows cache (cache.gatewayHosts.toList.flatMap (sharerSteps cache))
      (holdOrphans cache (addIngresses cache)) (sortHosts cache (addIngresses cache)) :=
  Follows.foldl (fun b root _ => Building.reportSharers_follows b root) _ _ hsound

/-- Roots do their steps one after the other. -/
theorem addRoots_follows [Pattern.Engine] (roots : List (Identity × GatewayHost)) {b : Building}
    (hb : b.lookups.Sound cache) :
    Follows cache (roots.flatMap (rootSteps cache)) b (roots.foldl (Building.addRoot cache) b) :=
  Follows.foldl (fun b root hb => Building.addRoot_follows b root hb) roots b hb

/-- A build does the steps of its roots, `allSteps`, after the orphans are held. -/
theorem buildAll_follows [Pattern.Engine] (hsound : (holdOrphans cache (addIngresses cache)).lookups.Sound cache) :
    Follows cache (allSteps cache) (holdOrphans cache (addIngresses cache)) (buildAll cache) := by
  have hsort := sortHosts_follows hsound
  exact hsort.append (addRoots_follows cache.gatewayHosts.toList (hsort.lookups hsound))

/-- The only steps for a root that is not accepted are reports on it. -/
theorem mem_sharerSteps {root : Identity} {host : GatewayHost} {s : Step}
    (h : s ∈ sharerSteps cache (root, host)) :
    host.virtualHost.isSome ∧ ∃ problem, s = .reject root problem := by
  unfold sharerSteps at h
  cases hv : host.virtualHost with
  | none => simp [hv] at h
  | some v =>
    simp only [hv] at h
    split at h
    · exact ⟨rfl, _, List.mem_singleton.mp h⟩
    · simp at h

/-- A step for a root is a report on it, or a step of its walk. -/
theorem mem_rootSteps {root : Identity} {host : GatewayHost} {s : Step}
    (hfound : cache.gatewayHosts.find? root = some host) (h : s ∈ rootSteps cache (root, host)) :
    (host.virtualHost.isSome ∧ ∃ problem, s = .reject root problem) ∨
      ∃ v mode, Accepted cache root host v mode ∧ s ∈ walkSteps cache root host v.domain mode := by
  unfold rootSteps at h
  cases hv : host.virtualHost with
  | none => simp [hv] at h
  | some v =>
    simp only [hv] at h
    split at h
    · simp at h
    -- a root that is not shared was either refused or accepted
    · next hfew =>
      cases hmode : rootMode cache root v with
      | error problem =>
        rw [hmode] at h
        exact .inl ⟨rfl, problem, List.mem_singleton.mp h⟩
      | ok mode =>
        rw [hmode] at h
        rcases List.mem_append.mp h with h | h
        · obtain ⟨problem, -, rfl⟩ := List.mem_map.mp h
          exact .inl ⟨rfl, problem, rfl⟩
        · exact .inr ⟨v, mode, ⟨hfound, hv, sharers_eq_singleton hfound hv hfew, hmode⟩, h⟩

/-- A step is a report on a root, or a step of the walk of an accepted one. -/
theorem mem_allSteps {s : Step} (h : s ∈ allSteps cache) :
    (∃ root host problem, cache.gatewayHosts.find? root = some host ∧ host.virtualHost.isSome ∧
      s = .reject root problem) ∨
    ∃ root host v mode, Accepted cache root host v mode ∧
      s ∈ walkSteps cache root host v.domain mode := by
  rcases List.mem_append.mp h with h | h
  · obtain ⟨⟨root, host⟩, hmem, hs⟩ := List.mem_flatMap.mp h
    obtain ⟨hroot, problem, rfl⟩ := mem_sharerSteps hs
    exact .inl ⟨root, host, problem, OrderedMap.find?_eq_some_of_mem hmem, hroot, rfl⟩
  · obtain ⟨⟨root, host⟩, hmem, hs⟩ := List.mem_flatMap.mp h
    have hfound := OrderedMap.find?_eq_some_of_mem hmem
    rcases mem_rootSteps hfound hs with ⟨hroot, problem, rfl⟩ | ⟨v, mode, haccepted, hs⟩
    · exact .inl ⟨root, host, problem, hfound, hroot, rfl⟩
    · exact .inr ⟨root, host, v, mode, haccepted, hs⟩

/-- The walk of an accepted root is among the steps. -/
theorem walkSteps_subset_allSteps [Pattern.Engine] {root : Identity} {host : GatewayHost} {v : VirtualHostSpec}
    {mode : TlsMode} (h : Accepted cache root host v mode) :
    walkSteps cache root host v.domain mode ⊆ allSteps cache := by
  intro s hs
  refine List.mem_append_right _ ?_
  refine List.mem_flatMap.mpr ⟨(root, host), OrderedMap.mem_of_find?_eq_some h.found, ?_⟩
  unfold rootSteps
  simp only [h.virtualHost, h.alone, List.length_singleton, Nat.lt_irrefl, if_false, h.mode]
  exact List.mem_append_right _ hs

/-- Every root is accepted, or there is a report on it among the steps. -/
theorem accepted_or_reject {root : Identity} {host : GatewayHost}
    (hfound : cache.gatewayHosts.find? root = some host) (hroot : host.virtualHost.isSome) :
    (∃ v mode, Accepted cache root host v mode) ∨ ∃ problem, .reject root problem ∈ allSteps cache := by
  obtain ⟨v, hv⟩ := Option.isSome_iff_exists.mp hroot
  have hmem := OrderedMap.mem_of_find?_eq_some hfound
  -- a shared name was reported when the hosts were sorted, a refused root in its turn
  by_cases hmany : 1 < (sharers cache.gatewayHosts v.domain).length
  · refine .inr ⟨.duplicateFqdn v.domain (sharers cache.gatewayHosts v.domain),
      List.mem_append_left _ (List.mem_flatMap.mpr ⟨_, hmem, ?_⟩)⟩
    unfold sharerSteps
    simp only [hv, hmany, if_true]
    exact List.mem_singleton_self _
  · cases hmode : rootMode cache root v with
    | ok mode => exact .inl ⟨v, mode, hfound, hv, sharers_eq_singleton hfound hv hmany, hmode⟩
    | error problem =>
      refine .inr ⟨problem, List.mem_append_right _ (List.mem_flatMap.mpr ⟨_, hmem, ?_⟩)⟩
      unfold rootSteps
      simp only [hv, hmany, if_false, hmode]
      exact List.mem_singleton_self _

/-- The walk over the routes of a root follows the rules of `Walk`. -/
theorem walk_serveSteps (root : Identity) (host : GatewayHost) (fqdn : String) :
    Walk cache.gatewayHosts (mergeSteps cache.serviceRoutes fqdn) (.ofRoot root host) []
      host.routes (serveSteps cache root host fqdn) :=
  walk_routeSteps (mergeSteps cache.serviceRoutes fqdn) (.ofRoot root host)

/-- The walk over the forwarding of a root follows the rules of `TcpWalk`. -/
theorem walk_forwardSteps (root : Identity) (host : GatewayHost) :
    TcpWalk cache.gatewayHosts (.ofRoot root host) (forwardSteps cache root host) :=
  tcpWalk_tcpSteps [root] root host.tcpProxy

/-- `WalkOrigin cache root host fqdn mode s` tells the ways in which the step `s` may come into the
walk of a root. -/
inductive WalkOrigin [Pattern.Engine] (cache : Cache) (root : Identity) (host : GatewayHost)
    (fqdn : String)
    (mode : TlsMode) (s : Step) : Prop
  /-- A host that the forwarding enters makes it. -/
  | forwarding {g : TcpFrame} (forwards : mode.forwards host = true)
      (enters : TcpEnters cache.gatewayHosts (.ofRoot root host) g)
      (own : TcpOwnStep cache.gatewayHosts g s) : WalkOrigin cache root host fqdn mode s
  /-- A host that the routes enter makes it. -/
  | routes {g : RouteFrame} (serves : mode.forwards host = false)
      (enters : Enters cache.gatewayHosts (.ofRoot root host) g)
      (own : OwnStep cache.gatewayHosts g s) : WalkOrigin cache root host fqdn mode s
  /-- It is made for the service routes after a root without fault. -/
  | merging (serves : mode.forwards host = false)
      (completes : Completes cache.gatewayHosts (.ofRoot root host))
      (own : MergeStep cache fqdn s) : WalkOrigin cache root host fqdn mode s

theorem origin_of_mem_walkSteps {root : Identity} {host : GatewayHost} {fqdn : String}
    {mode : TlsMode} {s : Step} (h : s ∈ walkSteps cache root host fqdn mode) :
    WalkOrigin cache root host fqdn mode s := by
  unfold walkSteps at h
  cases hmode : mode.forwards host with
  | true =>
    rw [hmode] at h
    obtain ⟨g, hg, hown⟩ := (walk_forwardSteps root host).origin h
    exact .forwarding hmode hg hown
  | false =>
    rw [hmode] at h
    rcases (walk_serveSteps root host fqdn).origin h with ⟨h, hcompletes⟩ | ⟨g, hg, hown⟩
    · exact .merging hmode hcompletes (mem_mergeSteps h)
    · exact .routes hmode hg hown

theorem serveSteps_subset_allSteps {root : Identity} {host : GatewayHost} {v : VirtualHostSpec}
    {mode : TlsMode} (h : Accepted cache root host v mode) (serves : mode.forwards host = false) :
    serveSteps cache root host v.domain ⊆ allSteps cache := by
  have hwalk := walkSteps_subset_allSteps h
  rwa [walkSteps, serves] at hwalk

theorem forwardSteps_subset_allSteps {root : Identity} {host : GatewayHost} {v : VirtualHostSpec}
    {mode : TlsMode} (h : Accepted cache root host v mode) (forwards : mode.forwards host = true) :
    forwardSteps cache root host ⊆ allSteps cache := by
  have hwalk := walkSteps_subset_allSteps h
  rwa [walkSteps, forwards] at hwalk

end GatewayCompiler.Build
