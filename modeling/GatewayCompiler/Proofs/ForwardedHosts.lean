import GatewayCompiler.Proofs.Building
import GatewayCompiler.Proofs.Delegation.Forwarding

/-!
# What a forwarding finds out about hosts

When the forwarding of connections enters a host, the host gets a status if it has none yet.  It is
found in order if its connections come to services that are all there, and also if it hands over to
another host, whatever becomes of the connections there.

## Main definitions

* `Carries` — the forwarding of a host is in order.
* `Verdict` — the outcome that goes with it.

## Main statements

* `TcpWalk.verdict` — what a walk over forwardings records for the hosts that it enters.
-/

namespace GatewayCompiler.Build

open Relation

variable {cache : Cache} {b : Building}

/-! ### Services -/

/-- `AllListed cache space services` says that all services that an object of a namespace names have
their ports. -/
def AllListed (cache : Cache) (space : String) (services : List ServiceSpec) : Prop :=
  ∀ s ∈ services, (findPort? cache ⟨space, s.name⟩ (.number s.number)).isSome

/-- Connections can be forwarded if and only if `AllListed` holds: a single missing service is
enough to fail. -/
theorem forwardClusters_isOk_iff (space : String) (services : List ServiceSpec) :
    Answers cache (Building.forwardClusters cache space services) fun result =>
      (∃ clusters, result = .ok clusters) ↔ AllListed cache space services := by
  induction services with
  | nil => exact .pure (by simp [AllListed])
  | cons s rest ih =>
    rw [Building.forwardClusters]
    -- a missing port ends the list, a found one leaves the question to the rest
    refine (lookupPort_answers _ _).bind fun found hfound => ?_
    cases h : findPort? cache ⟨space, s.name⟩ (.number s.number) with
    | none =>
      rw [h] at hfound
      subst hfound
      refine .pure ⟨by rintro ⟨_, ⟨⟩⟩, fun hall => ?_⟩
      have hsome := hall s List.mem_cons_self
      rw [h] at hsome
      cases hsome
    | some p =>
      rw [h] at hfound
      obtain ⟨resolved, rfl, -⟩ := hfound
      refine ih.bind fun result hresult => .pure ?_
      have hrest : AllListed cache space (s :: rest) ↔ AllListed cache space rest := by
        simp [AllListed, h]
      rw [hrest, ← hresult]
      cases result with
      | error problem => exact ⟨by rintro ⟨_, ⟨⟩⟩, by rintro ⟨_, ⟨⟩⟩⟩
      | ok clusters => exact ⟨fun _ => ⟨_, rfl⟩, fun _ => ⟨_, rfl⟩⟩

/-! ### Single steps -/

/-- `Carries cache f` says that the forwarding of the host entered with `f` is in order: its
services are there, or it hands over. -/
def Carries (cache : Cache) (f : TcpFrame) : Prop :=
  (∃ services, f.Serves services ∧ AllListed cache f.owner.space services) ∨
    ∃ g, TcpDelegates cache.gatewayHosts f g

/-- `Verdict cache f outcome` says that the host entered with `f` gets `outcome` as its forwarding
is in order or not. -/
structure Verdict (cache : Cache) (f : TcpFrame) (outcome : Outcome) : Prop where
  /-- It is valid if its forwarding is in order. -/
  valid : Carries cache f → outcome = .valid .gatewayHost
  /-- Otherwise it is not. -/
  invalid : ¬ Carries cache f → outcome.kind = .invalid

namespace Building

/-- The first outcome of an object becomes its status; a later one would be dropped. -/
theorem find?_settle_of_none {object : ObjectRef} (hnone : b.statuses.find? object = none)
    (outcome : Outcome) (host : String) :
    (b.settle object outcome host).statuses.find? object = some ⟨outcome, host⟩ := by
  rw [settle, Ledger.find?_record_self, hnone]
  rfl

/-- The verdict on a host that forwards by itself, which depends on the services in the cache. -/
theorem forward_verdict {f : TcpFrame} {services : List ServiceSpec} (serves : f.Serves services)
    (place : Place) (hb : b.lookups.Sound cache)
    (hnone : b.statuses.find? (hostRef f.owner) = none) :
    ∃ status, (b.forward cache place f.owner services).statuses.find? (hostRef f.owner)
      = some status ∧ Verdict cache f status.outcome := by
  -- a frame that serves does not hand over, so it carries nothing but its own services
  have hcarries : Carries cache f ↔ AllListed cache f.owner.space services := by
    constructor
    · rintro (⟨services', ⟨hproxy, -⟩, hlisted⟩ | ⟨g, hg⟩)
      · rw [serves.1] at hproxy
        cases hproxy
        exact hlisted
      · exact absurd hg serves.not_delegates
    · exact fun hlisted => .inl ⟨services, serves, hlisted⟩
  have hfound := look_answer (forwardClusters_isOk_iff f.owner.space services) hb
  rw [← hcarries] at hfound
  have hsame : (b.look (forwardClusters cache f.owner.space services)).2.statuses = b.statuses := rfl
  unfold forward
  generalize b.look (forwardClusters cache f.owner.space services) = looked at hfound hsame ⊢
  obtain ⟨result, b'⟩ := looked
  change b'.statuses = b.statuses at hsame
  rw [← hsame] at hnone
  cases result with
  | error problem =>
    have hnot : ¬ Carries cache f := by
      intro h
      obtain ⟨_, ⟨⟩⟩ := hfound.mpr h
    exact ⟨_, find?_settle_of_none hnone _ _, fun h => absurd h hnot, fun _ => rfl⟩
  | ok clusters =>
    have h : Carries cache f := hfound.mp ⟨clusters, rfl⟩
    exact ⟨_, find?_settle_of_none hnone _ _, fun _ => rfl, fun hnot => absurd h hnot⟩

end Building

/-! ### Walks -/

/-- A host gets its outcome only from its own steps, as `f.owner` is the only object that these
settle. -/
theorem TcpOwnStep.records {hosts : OrderedMap Identity GatewayHost} {f : TcpFrame} {s : Step}
    (h : TcpOwnStep hosts f s) {object : ObjectRef} {outcome : Outcome}
    (hrecords : s.Records object outcome) : object = hostRef f.owner := by
  cases h with
  | forward services => cases hrecords <;> rfl
  | reject problem =>
    cases hrecords
    rfl
  | accept =>
    cases hrecords
    rfl
  | back target seen => cases hrecords
  | enter g hdel => cases hrecords

/-- A walk gives a host that it enters the outcome that goes with its forwarding, unless the host
has a status already.  No other host on the way settles it, as none is entered twice. -/
theorem TcpWalk.verdict {f g : TcpFrame} {steps : List Step}
    (h : TcpWalk cache.gatewayHosts f steps) (hself : f.owner ∈ f.chain)
    (hg : TcpEnters cache.gatewayHosts f g) (place : Place) (hb : b.lookups.Sound cache)
    (hnone : b.statuses.find? (hostRef g.owner) = none) :
    ∃ status, (b.takeAll cache place steps).statuses.find? (hostRef g.owner) = some status ∧
      Verdict cache g status.outcome := by
  induction h generalizing b with
  | @reject f problem leads known unserved stuck =>
    -- the walk ends here, so that the host is the one that is at fault
    rcases ReflTransGen.cases_head hg with rfl | ⟨k, hk, -⟩
    · have hnot : ¬ Carries cache f := by
        rintro (⟨services, serves, -⟩ | ⟨k, hk⟩)
        · exact unserved services serves
        · exact stuck k hk
      rw [Building.takeAll_append]
      have hreach := @Building.takeAll_reach_statuses cache place leads b
      rw [← hreach] at hnone
      exact ⟨_, Building.find?_settle_of_none hnone _ _, fun h => absurd h hnot, fun _ => rfl⟩
    · exact absurd hk (stuck k)
  | @forward f services serves =>
    rcases ReflTransGen.cases_head hg with rfl | ⟨k, hk, -⟩
    · exact Building.forward_verdict serves place hb hnone
    · exact absurd hk serves.not_delegates
  | @enter f k inner delegates below ih =>
    change ∃ status, ((b.reach k.owner).takeAll cache place (inner ++ [.accept f.owner])).statuses.find?
      _ = some status ∧ _
    rw [Building.takeAll_append]
    have hinner := @Building.takeAll_follows cache place inner (b.reach k.owner)
    rcases ReflTransGen.cases_head hg with rfl | ⟨k', hk', hrest⟩
    · -- the hosts behind are others, so that the host is found in order in the end
      have hcarries : Carries cache f := .inr ⟨k, delegates⟩
      have hopen := hinner.find?_eq_none hnone fun s hs outcome hrecords => by
        obtain ⟨k', hk', hown⟩ := below.origin hs
        have howner : f.owner = k'.owner := congrArg ObjectRef.identity (hown.records hrecords)
        exact delegates.owner_notMem hk' (howner ▸ hself)
      exact ⟨_, Building.find?_settle_of_none hopen _ _, fun _ => rfl, fun h => absurd hcarries h⟩
    · obtain rfl := hk'.unique delegates
      obtain ⟨status, hfind, hverdict⟩ :=
        @ih (b.reach k'.owner) hk'.owner_mem hrest hb hnone
      have haccept := @Building.takeAll_follows cache place [.accept f.owner]
        ((b.reach k'.owner).takeAll cache place inner)
      exact ⟨status, haccept.kept _ _ hfind, hverdict⟩

end GatewayCompiler.Build
