import GatewayCompiler.Proofs.Delegation.Routes

/-!
# Walks over forwardings

The forwarding of whole connections is delegated along a single way: a host either forwards by
itself or hands over to one other host.

## Main definitions

* `TcpFrame` — the arguments with which a host is entered.
* `TcpDelegates` — one host is entered from another.
* `TcpFrame.Serves` — a host forwards to services by itself.
* `TcpWalk` — the steps of a walk over forwardings, by its own rules.

## Main statements

* `tcpWalk_tcpSteps` — `tcpSteps` follows the rules.
* `TcpWalk.origin`, `TcpWalk.settles_of_enters`, `TcpWalk.reaches_of_enters` — the hosts that are
  entered are those with an outcome.
* `TcpDelegates.owner_notMem` — no host on the way is entered again.
-/

namespace GatewayCompiler.Build

open Relation

/-! ### Hosts that are entered -/

/-- The arguments with which the forwarding of a host is entered: those of `tcpSteps`. -/
structure TcpFrame where
  /-- The hosts on the way; the last one is the owner. -/
  chain : List Identity
  /-- The host that is entered. -/
  owner : Identity
  /-- The forwarding of the host. -/
  proxy : Option TcpProxySpec

/-- A root is entered first, with a chain that has it alone. -/
def TcpFrame.ofRoot (root : Identity) (host : GatewayHost) : TcpFrame :=
  ⟨[root], root, host.tcpProxy⟩

variable {hosts : OrderedMap Identity GatewayHost}

/-- `TcpDelegates hosts f g` says that the host entered with `f` hands over to the one that is then
entered with `g`. -/
inductive TcpDelegates (hosts : OrderedMap Identity GatewayHost) : TcpFrame → TcpFrame → Prop
  /-- The host hands over to a delegate that is there and not on the way already. -/
  | intro {f : TcpFrame} {proxy : TcpProxySpec} {d : Delegate} {child : GatewayHost}
      (own : f.proxy = some proxy) (services : proxy.services = [])
      (delegate : proxy.delegate = some d)
      (found : hosts.find? (d.target f.owner.space) = some child)
      (new : d.target f.owner.space ∉ f.chain) :
      TcpDelegates hosts f
        ⟨f.chain ++ [d.target f.owner.space], d.target f.owner.space, child.tcpProxy⟩

/-- `TcpEnters hosts f g` says that the host entered with `g` is entered from that of `f`, itself
included, over any number of others. -/
abbrev TcpEnters (hosts : OrderedMap Identity GatewayHost) : TcpFrame → TcpFrame → Prop :=
  ReflTransGen (TcpDelegates hosts)

/-- `f.Serves services` says that the host forwards to `services` by itself. -/
def TcpFrame.Serves (f : TcpFrame) (services : List ServiceSpec) : Prop :=
  f.proxy = some ⟨services, none⟩ ∧ services ≠ []

/-- A host does not forward by itself unless it has services and no delegate. -/
theorem TcpFrame.not_serves {chain : List Identity} {owner : Identity} {proxy : TcpProxySpec}
    (h : proxy.services ≠ [] → proxy.delegate ≠ none) (services : List ServiceSpec) :
    ¬ TcpFrame.Serves ⟨chain, owner, some proxy⟩ services := by
  rintro ⟨hproxy, hservices⟩
  cases hproxy
  exact h hservices rfl

/-- A host that forwards by itself does not hand over: it has services, and `TcpDelegates` asks for
none. -/
theorem TcpFrame.Serves.not_delegates {f g : TcpFrame} {services : List ServiceSpec}
    (h : f.Serves services) : ¬ TcpDelegates hosts f g := by
  rintro ⟨own, hservices, -, -, -⟩
  rw [h.1] at own
  cases own
  exact h.2 hservices

/-! ### The rules of a walk -/

/-- `TcpWalk hosts f steps` says that `steps` are the steps that the forwarding of the host entered
with `f` comes to.  It has one rule for each way in which `tcpSteps` goes on. -/
inductive TcpWalk (hosts : OrderedMap Identity GatewayHost) : TcpFrame → List Step → Prop
  /-- The forwarding is at fault; a delegate that is the reason is reached all the same. -/
  | reject {f : TcpFrame} {problem : Problem} (leads : List Identity)
      (known : ∀ t ∈ leads, t ∈ f.chain) (unserved : ∀ services, ¬ f.Serves services)
      (stuck : ∀ g, ¬ TcpDelegates hosts f g) :
      TcpWalk hosts f (leads.map .reach ++ [.reject f.owner problem])
  /-- The host forwards by itself. -/
  | forward {f : TcpFrame} {services : List ServiceSpec} (serves : f.Serves services) :
      TcpWalk hosts f [.forward f.owner services]
  /-- The host hands over to a delegate. -/
  | enter {f g : TcpFrame} {inner : List Step} (delegates : TcpDelegates hosts f g)
      (below : TcpWalk hosts g inner) :
      TcpWalk hosts f (.reach g.owner :: (inner ++ [.accept f.owner]))

/-- A host hands over to one other host at most, so that the hosts entered from a root form a chain
and not a tree. -/
theorem TcpDelegates.unique {f g g' : TcpFrame} (h : TcpDelegates hosts f g)
    (h' : TcpDelegates hosts f g') : g = g' := by
  cases h with
  | intro own services delegate found new =>
    cases h' with
    | intro own' services' delegate' found' new' =>
      rw [own] at own'
      cases own'
      rw [delegate] at delegate'
      cases delegate'
      rw [found] at found'
      cases found'
      rfl

/-- The steps for a forwarding, without the measure for which `tcpSteps` ends. -/
theorem tcpSteps_eq (chain : List Identity) (owner : Identity) (proxy : Option TcpProxySpec) :
    tcpSteps hosts chain owner proxy =
      match proxy with
      | none => [.reject owner .noTcpProxy]
      | some proxy =>
        if proxy.services ≠ [] then
          if proxy.delegate.isSome then [.reject owner .tcpServicesAndDelegate]
          else [.forward owner proxy.services]
        else
          match proxy.delegate with
          | none => [.reject owner .emptyTcpProxy]
          | some delegate =>
            let target := delegate.target owner.space
            match hosts.find? target with
            | none => [.reject owner (.tcpDelegateMissing target)]
            | some child =>
              .reach target ::
                if target ∈ chain then [.reject owner (.tcpCycle (chain ++ [target]))]
                else tcpSteps hosts (chain ++ [target]) target child.tcpProxy ++ [.accept owner] := by
  cases proxy with
  | none => rw [tcpSteps]
  | some proxy =>
    rw [tcpSteps]
    simp only
    congr 1
    -- the two forms differ only in how the lookup of the target is bound
    cases hdelegate : proxy.delegate with
    | none => rfl
    | some delegate =>
      simp only
      split
      · next hmissing => rw [hmissing]
      · next child hfound =>
        rw [hfound]
        rfl

/-- The steps for a forwarding follow the rules of `TcpWalk`. -/
theorem tcpWalk_tcpSteps (chain : List Identity) (owner : Identity) (proxy : Option TcpProxySpec) :
    TcpWalk hosts ⟨chain, owner, proxy⟩ (tcpSteps hosts chain owner proxy) := by
  -- wherever the host is rejected, one of the conditions for handing over fails
  induction chain, owner, proxy using tcpSteps.induct hosts with
  | case1 chain owner =>
    rw [tcpSteps]
    refine .reject [] (by simp) (fun services hserves => by cases hserves.1) fun g hg => ?_
    cases hg with
    | intro own => cases own
  | case2 chain owner proxy hservices hdelegate =>
    rw [tcpSteps]
    simp only [hservices, hdelegate, ne_eq, not_false_eq_true, if_true]
    have hdelegate' : proxy.delegate ≠ none := Option.isSome_iff_ne_none.mp hdelegate
    refine .reject [] (by simp) (TcpFrame.not_serves fun _ => hdelegate') fun g hg => ?_
    cases hg with
    | intro own services =>
      cases own
      exact hservices services
  | case3 chain owner proxy hservices hdelegate =>
    rw [tcpSteps]
    simp only [hservices, hdelegate, ne_eq, not_false_eq_true, if_true]
    obtain ⟨services, delegate⟩ := proxy
    cases Option.not_isSome_iff_eq_none.mp hdelegate
    exact .forward ⟨rfl, hservices⟩
  | case4 chain owner proxy hservices hdelegate =>
    rw [tcpSteps]
    simp only [hservices, hdelegate, if_false]
    refine .reject [] (by simp) (TcpFrame.not_serves fun h => absurd h hservices) fun g hg => ?_
    cases hg with
    | intro own services delegate =>
      cases own
      rw [hdelegate] at delegate
      cases delegate
  | case5 chain owner proxy hservices d hdelegate hmissing =>
    rw [tcpSteps]
    simp only [hservices, hdelegate, if_false]
    split
    · refine .reject [] (by simp) (TcpFrame.not_serves fun h => absurd h hservices) fun g hg => ?_
      cases hg with
      | intro own services delegate found =>
        cases own
        rw [hdelegate] at delegate
        cases delegate
        rw [hmissing] at found
        cases found
    · next child hfound =>
      rw [hmissing] at hfound
      cases hfound
  | case6 chain owner proxy hservices d hdelegate child hfound ih =>
    rw [tcpSteps]
    simp only [hservices, hdelegate, if_false]
    split
    · next hmissing =>
      rw [hfound] at hmissing
      cases hmissing
    · next child' hfound' =>
      obtain rfl : child = child' := Option.some.inj (hfound.symm.trans hfound')
      by_cases hseen : d.target owner.space ∈ chain
      · simp only [hseen, dite_true]
        refine .reject [d.target owner.space] (by simp [hseen])
          (TcpFrame.not_serves fun h => absurd h hservices) fun g hg => ?_
        cases hg with
        | intro own services delegate found new =>
          cases own
          rw [hdelegate] at delegate
          cases delegate
          exact new hseen
      · simp only [hseen, dite_false]
        have hdel : TcpDelegates hosts ⟨chain, owner, some proxy⟩ _ :=
          .intro rfl (not_not.mp hservices) hdelegate hfound hseen
        exact .enter hdel (ih hseen)

/-! ### What the rules say about the steps -/

/-- `TcpOwnStep hosts f s` says that an entered host makes the step `s` itself, not by way of its
delegate. -/
inductive TcpOwnStep (hosts : OrderedMap Identity GatewayHost) (f : TcpFrame) : Step → Prop
  /-- It forwards to services. -/
  | forward (services : List ServiceSpec) : TcpOwnStep hosts f (.forward f.owner services)
  /-- It is at fault. -/
  | reject (problem : Problem) : TcpOwnStep hosts f (.reject f.owner problem)
  /-- It has handed over. -/
  | accept : TcpOwnStep hosts f (.accept f.owner)
  /-- It leads back to a host on the way. -/
  | back (target : Identity) (seen : target ∈ f.chain) : TcpOwnStep hosts f (.reach target)
  /-- It leads to a host that is entered. -/
  | enter (g : TcpFrame) (h : TcpDelegates hosts f g) : TcpOwnStep hosts f (.reach g.owner)

/-- Every step of a walk is made by a host that is entered. -/
theorem TcpWalk.origin {f : TcpFrame} {steps : List Step} (h : TcpWalk hosts f steps) {s : Step}
    (hs : s ∈ steps) : ∃ g, TcpEnters hosts f g ∧ TcpOwnStep hosts g s := by
  induction h with
  | reject leads known unserved stuck =>
    -- a step of a stuck walk leads back into the chain, or it is the rejection at the end
    rcases List.mem_append.mp hs with hs | hs
    · obtain ⟨t, ht, rfl⟩ := List.mem_map.mp hs
      exact ⟨_, .refl, .back t (known t ht)⟩
    · rw [List.mem_singleton.mp hs]
      exact ⟨_, .refl, .reject _⟩
  | forward serves =>
    rw [List.mem_singleton.mp hs]
    exact ⟨_, .refl, .forward _⟩
  | enter delegates below ih =>
    rcases List.mem_cons.mp hs with rfl | hs
    -- the step is the entry itself, one of the child's, or the acceptance behind them
    · exact ⟨_, .refl, .enter _ delegates⟩
    · rcases List.mem_append.mp hs with hs | hs
      · obtain ⟨g, hg, hown⟩ := ih hs
        exact ⟨g, .head delegates hg, hown⟩
      · rw [List.mem_singleton.mp hs]
        exact ⟨_, .refl, .accept⟩

/-- Every host that is entered gets an outcome, unless it forwards: then the status depends on the
services. -/
theorem TcpWalk.settles {f : TcpFrame} {steps : List Step} (h : TcpWalk hosts f steps) :
    (∃ outcome, .settle (hostRef f.owner) outcome ∈ steps) ∨
      ∃ services, .forward f.owner services ∈ steps := by
  cases h with
  | reject leads known unserved stuck =>
    exact .inl ⟨.invalid _, List.mem_append_right _ (List.mem_singleton_self _)⟩
  | forward serves => exact .inr ⟨_, List.mem_singleton_self _⟩
  | enter delegates below =>
    exact .inl ⟨.valid .gatewayHost,
      List.mem_cons_of_mem _ (List.mem_append_right _ (List.mem_singleton_self _))⟩

/-- A host that is entered makes its steps within those of the host that hands over to it, and it is
reached before. -/
theorem TcpWalk.of_delegates {f g : TcpFrame} {steps : List Step} (h : TcpWalk hosts f steps)
    (hg : TcpDelegates hosts f g) :
    .reach g.owner ∈ steps ∧ ∃ inner, TcpWalk hosts g inner ∧ inner ⊆ steps := by
  cases h with
  | reject leads known unserved stuck => exact absurd hg (stuck g)
  | forward serves => exact absurd hg serves.not_delegates
  | enter delegates below =>
    obtain rfl := hg.unique delegates
    exact ⟨List.mem_cons_self, _, below,
      List.subset_cons_of_subset _ (List.subset_append_left _ _)⟩

/-- Every host that is entered gets an outcome within the steps of the host that it is entered from,
and it is reached by a delegation unless it is that host. -/
theorem TcpWalk.settles_of_enters {f g : TcpFrame} {steps : List Step} (h : TcpWalk hosts f steps)
    (hg : TcpEnters hosts f g) :
    (∃ outcome, .settle (hostRef g.owner) outcome ∈ steps) ∨
      ∃ services, .forward g.owner services ∈ steps := by
  induction hg using ReflTransGen.head_induction_on generalizing steps with
  | refl => exact h.settles
  | head hdel _ ih =>
    obtain ⟨-, inner, hinner, hsub⟩ := h.of_delegates hdel
    exact (ih hinner).imp (.imp fun _ hmem => hsub hmem) (.imp fun _ hmem => hsub hmem)

/-- Every host that is entered from another one is reached by a delegation. -/
theorem TcpWalk.reaches_of_enters {f g : TcpFrame} {steps : List Step} (h : TcpWalk hosts f steps)
    (hg : TcpEnters hosts f g) : g = f ∨ .reach g.owner ∈ steps := by
  induction hg using ReflTransGen.head_induction_on generalizing steps with
  | refl => exact .inl rfl
  | head hdel _ ih =>
    obtain ⟨hreach, inner, hinner, hsub⟩ := h.of_delegates hdel
    rcases ih hinner with rfl | hmem
    · exact .inr hreach
    · exact .inr (hsub hmem)

/-! ### The hosts on the way -/

theorem TcpEnters.chain_subset {f g : TcpFrame} (h : TcpEnters hosts f g) : f.chain ⊆ g.chain := by
  induction h with
  | refl => exact List.Subset.refl _
  | tail _ hdel ih =>
    cases hdel with
    | intro own services delegate found new =>
      exact List.Subset.trans ih (List.subset_append_left _ _)

/-- A host that is entered is the last one on its way, so it is on `g.chain`. -/
theorem TcpDelegates.owner_mem {f g : TcpFrame} (h : TcpDelegates hosts f g) :
    g.owner ∈ g.chain := by
  cases h with
  | intro own services delegate found new =>
    exact List.mem_append_right _ (List.mem_singleton_self _)

/-- No host on the way is entered again, however far `k` is from `f`. -/
theorem TcpDelegates.owner_notMem {f g k : TcpFrame} (h : TcpDelegates hosts f g)
    (hk : TcpEnters hosts g k) : k.owner ∉ f.chain := by
  have hnew : ∀ {f g : TcpFrame}, TcpDelegates hosts f g → g.owner ∉ f.chain := by
    rintro _ _ ⟨-, -, -, -, new⟩
    exact new
  rcases ReflTransGen.cases_tail hk with rfl | ⟨before, hbefore, hlast⟩
  · exact hnew h
  · exact fun hmem => hnew hlast ((TcpEnters.chain_subset (.head h hbefore)) hmem)

theorem TcpEnters.isChain {root : Identity} {host : GatewayHost} {g : TcpFrame}
    (hfound : hosts.find? root = some host) (h : TcpEnters hosts (.ofRoot root host) g) :
    IsChain hosts root g.chain g.owner := by
  induction h with
  | refl => exact .root hfound
  | tail _ hdel ih =>
    cases hdel with
    | intro own services delegate found new => exact ih.append found new

/-- Every host on the way was entered, with the part of the chain that ends at it. -/
theorem TcpEnters.of_mem_chain {root : Identity} {host : GatewayHost} {g : TcpFrame}
    (h : TcpEnters hosts (.ofRoot root host) g) {i : Identity} (hi : i ∈ g.chain) :
    ∃ f, TcpEnters hosts (.ofRoot root host) f ∧ f.owner = i := by
  induction h with
  | refl => exact ⟨_, .refl, (List.mem_singleton.mp hi).symm⟩
  | tail hf hdel ih =>
    cases hdel with
    | intro own services delegate found new =>
      rcases List.mem_append.mp hi with hi | hi
      · exact ih hi
      · exact ⟨_, hf.tail (.intro own services delegate found new),
          (List.mem_singleton.mp hi).symm⟩

end GatewayCompiler.Build
