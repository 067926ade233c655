import GatewayCompiler.Proofs.Requests

/-!
# Ports that are remembered

A build remembers each port that it has asked for under its service and its number.  A request may name a
port by its number or by its name.  If a service lists a number more than once, a request for the name of
one of these ports is answered with the one that was asked for first.

## Main definitions

* `resolved?`, `firstUnder?` — what the cache says about a request, and the first port of a number.
* `Remembers` — what a build remembers between two look-ups.
* `answered?` — the answer to a request after others.
* `Ambiguous` — the service of a request lists the number of the port under another name as well.

## Main statements

* `Lookups.find?_after` — the first port of a number is remembered.
* `lookups_transparent_iff` — look-ups answer as the cache says exactly if no request is ambiguous.
* `admin_answered` — a request for the name of a port that is answered with another port.
-/

namespace GatewayCompiler.Build

section

variable {engine : Pattern.Engine} {cache : Cache}

/-! ### The first port of a number -/

/-- `resolved.key` is the service and the number that a port is remembered under.  The name of the
port is no part of it. -/
def ResolvedPort.key (resolved : ResolvedPort) : PortKey :=
  ⟨resolved.target.service, resolved.target.portNumber⟩

/-- `resolved? cache request` is what the cache says about a request: the first port of the service
that the selector means. -/
def resolved? (cache : Cache) (request : PortRequest) : Option ResolvedPort :=
  (findPort? cache request.1 request.2).map fun p => resolvePort request.1 p.1 p.2

/-- `firstUnder? cache requests key` is the first of the ports of some requests that is remembered
under `key`. -/
def firstUnder? (cache : Cache) (requests : List PortRequest) (key : PortKey) : Option ResolvedPort :=
  (requests.filterMap (resolved? cache)).find? fun resolved => resolved.key = key

/-- A port that is remembered is taken, and a new one is remembered, under the number of what the
cache says. -/
theorem lookupPort_run (request : PortRequest) (known : Lookups) :
    (lookupPort cache request.1 request.2).run known =
      match resolved? cache request with
      | none => (none, known)
      | some resolved =>
        match known.ports.find? resolved.key with
        | some found => (some found, known)
        | none => (some resolved, { known with ports := known.ports.insert resolved.key resolved }) := by
  unfold lookupPort resolved?
  -- the port is kept under its number, whatever the selector was
  cases findPort? cache request.1 request.2 with
  | none => rfl
  | some p =>
    have hkey : (resolvePort request.1 p.1 p.2).key = ⟨request.1, p.2.number⟩ := rfl
    simp only [StateT.run_bind, StateT.run_get, pure_bind, Option.map_some, hkey]
    cases known.ports.find? ⟨request.1, p.2.number⟩ with
    | none => rfl
    | some resolved => rfl

/-- A request is answered with the port that is remembered, or else with what the cache says. -/
theorem lookupPort_answer (request : PortRequest) (known : Lookups) :
    ((lookupPort cache request.1 request.2).run known).1
      = (resolved? cache request).map fun resolved => (known.ports.find? resolved.key).getD resolved := by
  rw [lookupPort_run]
  cases resolved? cache request with
  | none => rfl
  | some resolved =>
    simp only [Option.map_some]
    cases known.ports.find? resolved.key with
    | none => rfl
    | some found => rfl

/-- The first port of a number is what the cache says about one of the `requests`. -/
theorem firstUnder?_eq_some {requests : List PortRequest} {key : PortKey} {first : ResolvedPort}
    (h : firstUnder? cache requests key = some first) :
    ∃ request ∈ requests, resolved? cache request = some first ∧ first.key = key := by
  obtain ⟨request, hrequest, hresolved⟩ := List.mem_filterMap.mp (List.mem_of_find?_eq_some h)
  exact ⟨request, hrequest, hresolved, by simpa using List.find?_some h⟩

namespace Lookups

/-- A port is remembered unless there is one under its key already: `Option.or` keeps the first. -/
theorem find?_ask_port (request : PortRequest) (known : Lookups) (key : PortKey) :
    (known.ask cache (.port request)).ports.find? key =
      (known.ports.find? key).or ((resolved? cache request).filter fun resolved => resolved.key = key) := by
  change ((lookupPort cache request.1 request.2).run known).2.ports.find? key = _
  rw [lookupPort_run]
  cases resolved? cache request with
  | none => exact Option.or_none.symm
  | some resolved =>
    simp only [Option.filter_some, decide_eq_true_eq]
    -- the first request under a key is the one that is kept
    by_cases hkey : resolved.key = key
    · subst hkey
      rw [if_pos rfl]
      cases hknown : known.ports.find? resolved.key with
      | none => exact OrderedMap.find?_insert_self ..
      | some found => exact hknown
    · rw [if_neg hkey, Option.or_none]
      cases known.ports.find? resolved.key with
      | none => exact OrderedMap.find?_insert_of_ne _ _ fun h => hkey h.symm
      | some found => rfl

/-- Ports are left alone when a secret is looked up. -/
theorem ports_ask_secret (identity : Identity) (known : Lookups) :
    (known.ask cache (.secret identity)).ports = known.ports := by
  change ((lookupSecret cache identity).run known).2.ports = _
  unfold lookupSecret
  simp only [StateT.run_bind, StateT.run_get, pure_bind]
  cases known.secrets.find? identity with
  | some secret => rfl
  | none =>
    cases cache.keyMaterial? identity with
    | none => rfl
    | some secret => rfl

/-- The first port of a number is remembered, whatever `queries` come behind it. -/
theorem find?_after (queries : List Query) (known : Lookups) (key : PortKey) :
    (known.after cache queries).ports.find? key =
      (known.ports.find? key).or (firstUnder? cache (queries.filterMap Query.port?) key) := by
  -- over the requests: the earliest that resolves to the key answers
  induction queries generalizing known with
  | nil => exact Option.or_none.symm
  | cons query rest ih =>
    change ((known.ask cache query).after cache rest).ports.find? key = _
    rw [ih]
    cases query with
    | secret identity =>
      rw [ports_ask_secret]
      rfl
    | port request =>
      rw [find?_ask_port, Option.or_assoc]
      congr 1
      unfold firstUnder?
      rw [List.filterMap_cons_some (rfl : Query.port? (.port request) = some request)]
      cases hresolved : resolved? cache request with
      | none =>
        rw [List.filterMap_cons_none hresolved]
        rfl
      | some resolved =>
        rw [List.filterMap_cons_some hresolved, List.find?_cons, Option.filter_some]
        cases decide (resolved.key = key) with
        | true => rfl
        | false => rfl

end Lookups

/-! ### What a build remembers -/

/-- `Remembers cache asked known` says that `known` is what a build may remember after it has asked
for the ports `asked`, and for any secrets. -/
structure Remembers [Pattern.Engine] (cache : Cache) (asked : List PortRequest) (known : Lookups) :
    Prop where
  /-- The ports are the first ones that the build asks for. -/
  inOrder : asked <+: portRequests cache
  /-- They were looked up in this order. -/
  queries : ∃ queries : List Query, queries.filterMap Query.port? = asked ∧
    known = Lookups.after cache queries {}

/-- `answered? cache asked request` is the answer to a request after others: the first of the ports
that were asked for under the same number of the same service, or else what the cache says. -/
def answered? (cache : Cache) (asked : List PortRequest) (request : PortRequest) : Option ResolvedPort :=
  (resolved? cache request).map fun own => (firstUnder? cache asked own.key).getD own

/-- `Ambiguous cache request` says that the service of a request lists the number of the port under
another name as well, and a request for the port of this name comes to it. -/
def Ambiguous (cache : Cache) (request : PortRequest) : Prop :=
  ∃ service port other selector, findPort? cache request.1 request.2 = some (service, port) ∧
    findPort? cache request.1 selector = some (service, other) ∧ other.number = port.number ∧
    other.name ≠ port.name

/-- At the end of a build all of its ports, the `portRequests`, were asked for. -/
theorem remembers_buildAll (cache : Cache) :
    Remembers cache (portRequests cache) (buildAll cache).lookups :=
  ⟨List.prefix_rfl, buildAll_asked cache⟩

/-- A build comes to any part of its requests, so that there is something to say about each of
them. -/
theorem exists_remembers {asked : List PortRequest} (h : asked <+: portRequests cache) :
    ∃ known, Remembers cache asked known := by
  refine ⟨_, h, asked.map .port, ?_, rfl⟩
  rw [List.filterMap_map]
  exact List.filterMap_some

namespace Remembers

variable {asked : List PortRequest} {known : Lookups}

theorem lookupPort (h : Remembers cache asked known) (identity : Identity) (selector : PortSelector) :
    ((Build.lookupPort cache identity selector).run known).1
      = answered? cache asked (identity, selector) := by
  obtain ⟨queries, rfl, rfl⟩ := h.queries
  refine (lookupPort_answer (identity, selector) _).trans (congrArg (Option.map · _) ?_)
  funext own
  rw [Lookups.find?_after]
  rfl

theorem lookupSecret (h : Remembers cache asked known) (identity : Identity) :
    ((Build.lookupSecret cache identity).run known).1 = cache.keyMaterial? identity := by
  obtain ⟨queries, -, rfl⟩ := h.queries
  exact (lookupSecret_answers identity _ (Lookups.Sound.after .empty queries)).1

end Remembers

/-- What the cache says about a request is the port that `findPort?` finds. -/
theorem resolved?_eq_some_iff {request : PortRequest} {resolved : ResolvedPort} :
    resolved? cache request = some resolved ↔ ∃ service port,
      findPort? cache request.1 request.2 = some (service, port) ∧
      resolved = resolvePort request.1 service port := by
  unfold resolved?
  rw [Option.map_eq_some_iff]
  constructor
  · rintro ⟨⟨service, port⟩, hfind, rfl⟩
    exact ⟨service, port, hfind, rfl⟩
  · rintro ⟨service, port, hfind, rfl⟩
    exact ⟨(service, port), hfind, rfl⟩

/-- Requests that come to ports of one number of a service come to ports of the same service. -/
theorem exists_ports {request other : PortRequest} {first own : ResolvedPort}
    (hfirst : resolved? cache request = some first) (hown : resolved? cache other = some own)
    (hkey : first.key = own.key) :
    ∃ service port port', findPort? cache request.1 request.2 = some (service, port) ∧
      findPort? cache request.1 other.2 = some (service, port') ∧ port'.number = port.number ∧
      first = resolvePort request.1 service port ∧ own = resolvePort request.1 service port' := by
  obtain ⟨service, port, hport, rfl⟩ := resolved?_eq_some_iff.mp hfirst
  obtain ⟨service', port', hport', rfl⟩ := resolved?_eq_some_iff.mp hown
  have hidentity : request.1 = other.1 := congrArg PortKey.service hkey
  rw [← hidentity] at hport' ⊢
  obtain rfl : service = service' :=
    Option.some.inj ((findPort?_eq_some hport).1.symm.trans (findPort?_eq_some hport').1)
  exact ⟨service, port, port', hport, hport', (congrArg PortKey.number hkey).symm, rfl, rfl⟩

/-- The name and the number of a port of a service decide everything else that is `resolved?`. -/
theorem resolved_eq {request other : PortRequest} {first own : ResolvedPort}
    (hfirst : resolved? cache request = some first) (hown : resolved? cache other = some own)
    (hkey : first.key = own.key) (hname : first.target.portName = own.target.portName) :
    first = own := by
  obtain ⟨service, ⟨name, number⟩, port', -, -, hnumber, rfl, rfl⟩ := exists_ports hfirst hown hkey
  cases hnumber
  cases (show name = port'.name from hname)
  rfl

/-- A request is `Ambiguous` if another one comes to another name of its number. -/
theorem Ambiguous.of_ne {request other : PortRequest} {first own : ResolvedPort}
    (hfirst : resolved? cache request = some first) (hown : resolved? cache other = some own)
    (hkey : first.key = own.key) (hname : own.target.portName ≠ first.target.portName) :
    Ambiguous cache request := by
  obtain ⟨service, port, port', hport, hport', hnumber, rfl, rfl⟩ := exists_ports hfirst hown hkey
  exact ⟨service, port, port', other.2, hport, hport', hnumber, hname⟩

/-- After some requests that are not ambiguous, every request is answered as the cache says. -/
theorem answered?_eq {asked : List PortRequest} (clear : ∀ request ∈ asked, ¬ Ambiguous cache request)
    (request : PortRequest) : answered? cache asked request = resolved? cache request := by
  unfold answered?
  cases hown : resolved? cache request with
  | none => rfl
  | some own =>
    cases hfirst : firstUnder? cache asked own.key with
    | none => simp [hfirst]
    | some first =>
      obtain ⟨other, hother, hresolved, hkey⟩ := firstUnder?_eq_some hfirst
      have hname : own.target.portName = first.target.portName := by
        by_contra hne
        exact clear other hother (.of_ne hresolved hown hkey hne)
      simp [hfirst, resolved_eq hresolved hown hkey hname.symm]

/-- Right after an ambiguous request, one of the requests that come to its number is answered with
another port. -/
theorem Ambiguous.exists_answered?_ne {request : PortRequest} (h : Ambiguous cache request)
    (before : List PortRequest) : ∃ selector,
      answered? cache (before ++ [request]) (request.1, selector)
        ≠ resolved? cache (request.1, selector) := by
  obtain ⟨service, port, other, selector, hport, hother, hnumber, hname⟩ := h
  have hport : resolved? cache request = some (resolvePort request.1 service port) :=
    resolved?_eq_some_iff.mpr ⟨service, port, hport, rfl⟩
  have hother : resolved? cache (request.1, selector) = some (resolvePort request.1 service other) :=
    resolved?_eq_some_iff.mpr ⟨service, other, hother, rfl⟩
  have hkey : (resolvePort request.1 service other).key = (resolvePort request.1 service port).key :=
    congrArg (PortKey.mk request.1) hnumber
  have hsome : (firstUnder? cache (before ++ [request]) (resolvePort request.1 service port).key).isSome := by
    rw [firstUnder?, List.find?_isSome]
    exact ⟨_, List.mem_filterMap.mpr ⟨request, by simp, hport⟩, by simp⟩
  obtain ⟨first, hfirst⟩ := Option.isSome_iff_exists.mp hsome
  -- both are answered with the first port that was asked for, which is one of them at most
  by_contra hall
  push Not at hall
  have hport' := hall request.2
  have hother' := hall selector
  rw [answered?, hport, Option.map_some, hfirst] at hport'
  rw [answered?, hother, Option.map_some, hkey, hfirst] at hother'
  have hsame := (Option.some.inj hother').symm.trans (Option.some.inj hport')
  exact hname (congrArg (fun resolved => resolved.target.portName) hsame)

/-- **When the memo of ports is transparent.** A build asks for its ports one after the other.
Wherever it stands, a secret is looked up as the cache has it, and a request for a port is answered
with the first port that was asked for under the same number of the same service.  All requests are
answered as the cache says exactly if no request of the build is ambiguous. -/
theorem lookups_transparent_iff (cache : Cache) :
    Remembers cache (portRequests cache) (buildAll cache).lookups ∧
    (∀ asked known, Remembers cache asked known →
      (∀ identity, ((lookupSecret cache identity).run known).1 = cache.keyMaterial? identity) ∧
      ∀ identity selector, ((lookupPort cache identity selector).run known).1
        = answered? cache asked (identity, selector)) ∧
    ((∀ asked known, Remembers cache asked known → ∀ identity selector,
      ((lookupPort cache identity selector).run known).1 = resolved? cache (identity, selector)) ↔
        ∀ request ∈ portRequests cache, ¬ Ambiguous cache request) := by
  refine ⟨remembers_buildAll cache, fun asked known h => ⟨h.lookupSecret, h.lookupPort⟩, ?_⟩
  constructor
  · intro htransparent request hrequest hambiguous
    obtain ⟨before, after, hsplit⟩ := List.append_of_mem hrequest
    have hbegin : before ++ [request] <+: portRequests cache := ⟨after, by simp [hsplit]⟩
    obtain ⟨known, h⟩ := exists_remembers hbegin
    obtain ⟨selector, hne⟩ := hambiguous.exists_answered?_ne before
    exact hne ((h.lookupPort _ _).symm.trans (htransparent _ known h _ _))
  · intro clear asked known h identity selector
    rw [h.lookupPort]
    exact answered?_eq (fun request hrequest => clear request (h.inOrder.subset hrequest)) _

end

/-! ### A number that is listed twice -/

/-- A service with two ports of one number. -/
def kioskService : Service :=
  ⟨{ name := some "kiosk", space := some "default" }, none, none, [⟨some "web", 80⟩, ⟨some "admin", 80⟩]⟩

/-- An ingress that sends the requests to `host` to a port of `kioskService`. -/
def kioskIngress (name host port : String) : Ingress where
  metadata := { name := some name, space := some "default" }
  spec := { rules := [⟨some host, [⟨none, some ⟨"kiosk", some ⟨none, some port⟩⟩⟩]⟩] }

/-- A cache with `kioskService` and two ingresses that name its ports. -/
def kioskCache : Cache where
  ingresses := .ofList [(⟨"default", "a"⟩, kioskIngress "a" "a.test" "web"),
    (⟨"default", "b"⟩, kioskIngress "b" "b.test" "admin")]
  services := .ofList [(⟨"default", "kiosk"⟩, kioskService)]

theorem portRequests_kioskCache :
    portRequests kioskCache =
      [(⟨"default", "kiosk"⟩, .name "web"), (⟨"default", "kiosk"⟩, .name "admin")] :=
  rfl

/-- A request for the name of a port is answered with another port, which was asked for before. -/
theorem admin_answered :
    ¬ ∀ (cache : Cache) (asked : List PortRequest) (known : Lookups), Remembers cache asked known →
      ∀ identity selector, ((lookupPort cache identity selector).run known).1
        = resolved? cache (identity, selector) := by
  intro hall
  obtain ⟨known, h⟩ := @exists_remembers _ kioskCache [(⟨"default", "kiosk"⟩, .name "web")]
    ⟨_, portRequests_kioskCache.symm⟩
  have hadmin := hall kioskCache _ known h ⟨"default", "kiosk"⟩ (.name "admin")
  rw [h.lookupPort] at hadmin
  have hname := congrArg (Option.map fun resolved => resolved.target.portName) hadmin
  revert hname
  decide

end GatewayCompiler.Build
