import GatewayCompiler.Proofs.Frame
import Mathlib.Data.List.Nodup

/-!
# Look-ups that do not depend on the past

A build remembers the first port that it finds under a number.  If no service lists a number twice,
there is only one to be found, so that the cache alone decides what every look-up answers, and with
it the clusters and the routes.  What a step makes of the hosts of a name then depends on these hosts
and on nothing else that the build has done.

## Main definitions

* `Cache.PortsDistinct` — no service lists a number twice.

## Main statements

* `lookupPort_determined`, `buildRoute_determined` — look-ups and routes are determined.
* `Building.addRoot_hostsAt_congr` — a root makes the same of the same hosts.
-/

namespace GatewayCompiler

/-- `cache.PortsDistinct` says that no service lists a number twice.  Then a port does not depend on
what the memo remembers. -/
def Cache.PortsDistinct (cache : Cache) : Prop :=
  ∀ i service, cache.services.find? i = some service →
    (service.ports.map ServicePort.number).Nodup

/-- It is enough to go through the services of `cache`. -/
theorem Cache.portsDistinct_of_forall {cache : Cache}
    (h : ∀ p ∈ cache.services.toList, (p.2.ports.map ServicePort.number).Nodup) :
    cache.PortsDistinct :=
  fun _ _ hfind => h _ (OrderedMap.mem_of_find?_eq_some hfind)

namespace Build

variable {α β : Type} {cache : Cache}

/-! ### Determined actions -/

namespace Determined

theorem bind {action : StateM Lookups α} {next : α → StateM Lookups β}
    (h : Determined cache action) (hnext : ∀ a, Determined cache (next a)) :
    Determined cache (action >>= next) := by
  obtain ⟨a, ha⟩ := h
  obtain ⟨b, hb⟩ := hnext a
  refine ⟨b, ha.bind fun a' heq => ?_⟩
  rw [heq]
  exact hb

/-- The parts of a build that may fail are determined one after the other, since `ExceptT.run` of a
bind is a bind. -/
theorem bindAttempt {action : Attempt α} {next : α → Attempt β}
    (h : Determined cache action.run) (hnext : ∀ a, Determined cache (next a).run) :
    Determined cache (action >>= next).run := by
  rw [ExceptT.run_bind]
  refine h.bind fun result => ?_
  cases result with
  | ok a => exact hnext a
  | error problem => exact .pure _

/-- A `check` that looks nothing up comes before the rest. -/
theorem bindExcept {check : Except Problem α} {next : α → Attempt β}
    (hnext : ∀ a, Determined cache (next a).run) :
    Determined cache (ExceptT.run ((liftM check : Attempt α) >>= next)) := by
  cases check with
  | ok a => exact hnext a
  | error problem => exact .pure _

end Determined

/-! ### Ports -/

/-- There is one port only that a number of a service may be resolved to, as the numbers are
`distinct`. -/
theorem PortOf.unique (distinct : cache.PortsDistinct) {identity : Identity} {number : Int}
    {resolved resolved' : ResolvedPort} (h : PortOf cache identity number resolved)
    (h' : PortOf cache identity number resolved') : resolved = resolved' := by
  obtain ⟨service, port, hfound, hport, hnumber, rfl⟩ := h
  obtain ⟨service', port', hfound', hport', hnumber', rfl⟩ := h'
  obtain rfl : service = service' := Option.some.inj (hfound.symm.trans hfound')
  have hnodup := distinct identity service hfound
  rw [List.inj_on_of_nodup_map hnodup hport hport' (hnumber.trans hnumber'.symm)]

/-- A port is the one that the cache has, whether it is remembered or looked up. -/
theorem lookupPort_determined (distinct : cache.PortsDistinct) (identity : Identity)
    (selector : PortSelector) : Determined cache (lookupPort cache identity selector) := by
  cases h : findPort? cache identity selector with
  | none =>
    refine ⟨none, fun known hknown => ?_⟩
    have hanswers := lookupPort_answers identity selector known hknown
    rwa [h] at hanswers
  | some found =>
    obtain ⟨service, port⟩ := found
    obtain ⟨hservice, hport, -⟩ := findPort?_eq_some h
    have hof : PortOf cache identity port.number (resolvePort identity service port) :=
      ⟨service, port, hservice, hport, rfl, rfl⟩
    refine ⟨some (resolvePort identity service port), fun known hknown => ?_⟩
    have hanswers := lookupPort_answers identity selector known hknown
    rw [h] at hanswers
    obtain ⟨⟨resolved, hresolved, hof'⟩, hsound⟩ := hanswers
    -- what was remembered is the only port of this number
    rw [hof.unique distinct hof']
    exact ⟨hresolved, hsound⟩

theorem lookupBackend_determined (distinct : cache.PortsDistinct) (identity : Identity)
    (selector : PortSelector) (given : Option Protocol) :
    Determined cache (lookupBackend cache identity selector given) := by
  refine (lookupPort_determined distinct identity selector).bind fun found => ?_
  cases found with
  | none => exact .pure _
  | some resolved => exact .pure _

/-! ### Clusters and routes -/

theorem buildCluster_determined (distinct : cache.PortsDistinct) (space : String)
    (s : ServiceSpec) : Determined cache (buildCluster cache space s).run := by
  unfold buildCluster
  refine .bindExcept fun _ => .bindExcept fun given => ?_
  obtain ⟨found, hfound⟩ :=
    lookupBackend_determined distinct ⟨space, s.name⟩ (.number s.number) given
  refine .bindLift hfound ?_
  -- a backend that is not found ends the function before either secret is looked up
  cases found with
  | none => exact .pure _
  | some backend =>
    simp only
    split
    · refine (buildValidation_result space s).determined.bindAttempt fun validation => ?_
      exact (buildClientCertificate_result space s).determined.bindAttempt fun keys => .pure _
    · exact .pure _

theorem buildClusters_determined (distinct : cache.PortsDistinct) (space : String)
    (services : List ServiceSpec) : Determined cache (buildClusters cache space services) := by
  induction services with
  | nil => exact .pure _
  | cons s rest ih =>
    rw [buildClusters]
    refine (buildCluster_determined distinct space s).bind fun built => ih.bind fun result => ?_
    cases built with
    | ok made => exact .pure _
    | error problem => exact .pure _

theorem buildRoute_determined (distinct : cache.PortsDistinct) (space : String) (spec : RouteSpec)
    (conditions : List Condition) : Determined cache (buildRoute cache space spec conditions) := by
  unfold buildRoute
  split
  · exact .pure _
  · exact (buildClusters_determined distinct space spec.services).bind fun result => .pure _

/-! ### Hosts -/

namespace Building

variable {b b' : Building} {name : String}

theorem forwardClusters_determined (distinct : cache.PortsDistinct) (space : String)
    (services : List ServiceSpec) : Determined cache (forwardClusters cache space services) := by
  induction services with
  | nil => exact .pure _
  | cons s rest ih =>
    rw [forwardClusters]
    refine (lookupPort_determined distinct _ _).bind fun found => ?_
    cases found with
    | none => exact .pure _
    | some resolved => exact ih.bind fun result => .pure _

/-- A look-up that is `Determined` answers the same in all builds with a sound memo. -/
theorem look_congr {action : StateM Lookups α} (h : Determined cache action)
    (hb : b.lookups.Sound cache) (hb' : b'.lookups.Sound cache) :
    (b.look action).1 = (b'.look action).1 := by
  obtain ⟨a, ha⟩ := h
  rw [look_answer ha hb, look_answer ha hb']

theorem onPlainHost_hostsAt_congr (same : b.hostsAt name = b'.hostsAt name) (host : String)
    (change : VirtualHost → VirtualHost) :
    (b.onPlainHost host change).hostsAt name = (b'.onPlainHost host change).hostsAt name := by
  obtain ⟨hplain, hsecure⟩ := Prod.mk.inj same
  by_cases hne : name = host
  · subst hne
    simp only [hostsAt, onPlainHost, OrderedMap.find?_insert_self, hplain, hsecure]
  · rw [hostsAt_onPlainHost_of_ne _ _ hne, hostsAt_onPlainHost_of_ne _ _ hne, same]

theorem onSecureHost_hostsAt_congr (same : b.hostsAt name = b'.hostsAt name) (host : String)
    (change : SecureHost → SecureHost) :
    (b.onSecureHost host change).hostsAt name = (b'.onSecureHost host change).hostsAt name := by
  obtain ⟨hplain, hsecure⟩ := Prod.mk.inj same
  by_cases hne : name = host
  · subst hne
    simp only [hostsAt, onSecureHost, OrderedMap.find?_insert_self, hplain, hsecure]
  · rw [hostsAt_onSecureHost_of_ne _ _ hne, hostsAt_onSecureHost_of_ne _ _ hne, same]

theorem report_hostsAt_congr (same : b.hostsAt name = b'.hostsAt name) (object : ObjectRef)
    (problems : List Problem) (host : String) :
    (b.report object problems host).hostsAt name = (b'.report object problems host).hostsAt name := by
  rw [report_hostsAt, report_hostsAt, same]

theorem attach_hostsAt_congr (same : b.hostsAt name = b'.hostsAt name) (place : Place)
    (route : Route) (permitInsecure : Bool) :
    (b.attach place route permitInsecure).hostsAt name
      = (b'.attach place route permitInsecure).hostsAt name := by
  unfold attach
  simp only
  split
  · exact onSecureHost_hostsAt_congr (onPlainHost_hostsAt_congr same _ _) _ _
  · exact onPlainHost_hostsAt_congr same _ _

/-- A step makes the same of the same hosts: the builds `b` and `b'` may differ elsewhere. -/
theorem take_hostsAt_congr (distinct : cache.PortsDistinct) (hb : b.lookups.Sound cache)
    (hb' : b'.lookups.Sound cache) (same : b.hostsAt name = b'.hostsAt name) (place : Place)
    (s : Step) : (b.take cache place s).hostsAt name = (b'.take cache place s).hostsAt name := by
  cases s with
  | serve object spec conditions =>
    change (b.serve cache place object spec conditions).hostsAt name
      = (b'.serve cache place object spec conditions).hostsAt name
    have hanswer := look_congr
      (buildRoute_determined distinct object.identity.space spec conditions) hb hb'
    unfold serve
    -- only the look-ups that are remembered may differ
    have hlook : (b.look (buildRoute cache object.identity.space spec conditions)).2.hostsAt name
        = (b'.look (buildRoute cache object.identity.space spec conditions)).2.hostsAt name := same
    generalize b.look (buildRoute cache object.identity.space spec conditions) = found
      at hanswer hlook ⊢
    generalize b'.look (buildRoute cache object.identity.space spec conditions) = found'
      at hanswer hlook ⊢
    obtain ⟨⟨route, problems⟩, b₁⟩ := found
    obtain ⟨⟨route', problems'⟩, b₂⟩ := found'
    cases hanswer
    cases route with
    | none => exact report_hostsAt_congr hlook _ _ _
    | some route => exact attach_hostsAt_congr (report_hostsAt_congr hlook _ _ _) _ _ _
  | forward owner services =>
    change (b.forward cache place owner services).hostsAt name
      = (b'.forward cache place owner services).hostsAt name
    have hanswer := look_congr (forwardClusters_determined distinct owner.space services) hb hb'
    have hlook : (b.look (forwardClusters cache owner.space services)).2.hostsAt name
        = (b'.look (forwardClusters cache owner.space services)).2.hostsAt name := same
    unfold forward
    generalize b.look (forwardClusters cache owner.space services) = found at hanswer hlook ⊢
    generalize b'.look (forwardClusters cache owner.space services) = found' at hanswer hlook ⊢
    obtain ⟨clusters, b₁⟩ := found
    obtain ⟨clusters', b₂⟩ := found'
    cases hanswer
    cases clusters with
    | error problem => exact hlook
    | ok clusters =>
      exact onSecureHost_hostsAt_congr hlook place.host fun h =>
        { h with host := { h.host with tcpProxy := some clusters } }
  | reach target => exact same
  | merge identity => exact same
  | settle object outcome => exact same

/-- A walk makes the same of the same hosts, by induction on its steps. -/
theorem takeAll_hostsAt_congr (distinct : cache.PortsDistinct) (hb : b.lookups.Sound cache)
    (hb' : b'.lookups.Sound cache) (same : b.hostsAt name = b'.hostsAt name) (place : Place)
    (steps : List Step) :
    (b.takeAll cache place steps).hostsAt name = (b'.takeAll cache place steps).hostsAt name := by
  induction steps generalizing b b' with
  | nil => exact same
  | cons s rest ih =>
    exact ih ((take_follows place b s).lookups hb) ((take_follows place b' s).lookups hb')
      (take_hostsAt_congr distinct hb hb' same place s)

theorem openRoot_hostsAt_congr (same : b.hostsAt name = b'.hostsAt name) (root : Identity)
    (host : GatewayHost) (v : VirtualHostSpec) (mode : TlsMode) :
    (b.openRoot cache root host v mode).hostsAt name
      = (b'.openRoot cache root host v mode).hostsAt name := by
  unfold openRoot
  generalize resolveFilters cache .virtualHost root.space v.filters = found
  obtain ⟨filters, problems⟩ := found
  cases mode with
  | off => exact onPlainHost_hostsAt_congr (report_hostsAt_congr same _ _ _) _ _
  | terminate certificate minVersion =>
    simp only
    have hsecure := onSecureHost_hostsAt_congr
      (report_hostsAt_congr same (hostRef root) problems v.domain) v.domain fun h =>
        { host := h.host.addFilters filters, certificate := some certificate, minVersion }
    split
    · exact hsecure
    · exact onPlainHost_hostsAt_congr hsecure _ _
  | passthrough =>
    simp only
    have hsecure := onSecureHost_hostsAt_congr same v.domain id
    split
    · exact hsecure
    · exact onPlainHost_hostsAt_congr (report_hostsAt_congr hsecure _ _ _) _ _

/-- A root makes the same of the same hosts, by opening the host and by its walk. -/
theorem addRoot_hostsAt_congr [Pattern.Engine] (distinct : cache.PortsDistinct)
    (hb : b.lookups.Sound cache)
    (hb' : b'.lookups.Sound cache) (same : b.hostsAt name = b'.hostsAt name)
    (root : Identity × GatewayHost) :
    (b.addRoot cache root).hostsAt name = (b'.addRoot cache root).hostsAt name := by
  unfold addRoot
  cases root.2.virtualHost with
  | none => exact same
  | some v =>
    simp only
    split
    · exact same
    -- the two builders answer the check alike and keep their hosts through it; from there on only
    -- the mode matters
    · have hanswer := look_congr (checkRoot_result root.1 v).determined hb hb'
      have hlook := look_follows (@checkRoot_answers cache root.1 v) b
      have hlook' := look_follows (@checkRoot_answers cache root.1 v) b'
      have hhosts : (b.look (checkRoot cache root.1 v).run).2.hostsAt name
          = (b'.look (checkRoot cache root.1 v).run).2.hostsAt name := same
      generalize b.look (checkRoot cache root.1 v).run = found at hanswer hlook hhosts ⊢
      generalize b'.look (checkRoot cache root.1 v).run = found' at hanswer hlook' hhosts ⊢
      obtain ⟨mode, b₁⟩ := found
      obtain ⟨mode', b₂⟩ := found'
      obtain rfl : mode = mode' := hanswer
      cases mode with
      | error problem => exact hhosts
      | ok mode =>
        simp only
        rw [enterRoot_eq, enterRoot_eq]
        exact takeAll_hostsAt_congr distinct
          ((openRoot_follows _ _ _ _ _).lookups (hlook.lookups hb))
          ((openRoot_follows _ _ _ _ _).lookups (hlook'.lookups hb'))
          (openRoot_hostsAt_congr hhosts _ _ _ _) _ _

end Building

end Build

end GatewayCompiler
