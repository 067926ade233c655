import GatewayCompiler.Proofs.Delegation.Routes

/-!
# The entries that a walk comes to

A walk over routes serves entries of many hosts.  The entries are told apart by the positions of the
routes on the way to them, and the walk serves them in the order of these positions, which is the
order in which it goes down into delegates.

## Main definitions

* `Offer`, `Step.offer?` — a route that is to be served, and the step that serves it.
* `Entry` — a route of a host that is entered, with `Entry.path` and `Entry.offer`.
* `Reached` — the walk comes to an entry that has no delegate.
* `Linked` — the delegating routes along a chain.

## Main statements

* `Walk.entries` — the entries that a walk serves, in their order.
* `Enters.linked` — the conditions on the way to a host are those of the delegating routes.
-/

namespace GatewayCompiler.Build

open Relation

variable {engine : Pattern.Engine} {hosts : OrderedMap Identity GatewayHost}

/-- A route of an object, which is to be served under some conditions.  It is what `Step.serve`
carries. -/
structure Offer where
  /-- The object. -/
  object : ObjectRef
  /-- The route. -/
  route : RouteSpec
  /-- The conditions. -/
  conditions : List Condition

/-- `s.offer?` is what the step `s` serves, if it serves anything. -/
def Step.offer? : Step → Option Offer
  | .serve object route conditions => some ⟨object, route, conditions⟩
  | .forward .. | .reach _ | .merge _ | .settle .. => none

/-- A route of a host that is entered: its `frame`, and what of the host stands before it. -/
structure Entry where
  /-- How the host is entered. -/
  frame : RouteFrame
  /-- The routes before it. -/
  earlier : List RouteSpec
  /-- The route. -/
  route : RouteSpec

namespace Entry

/-- `e.path` are the positions of the routes on the way, with that of the entry at the end.  The
order of served routes is the lexicographic order of these. -/
def path (e : Entry) : List Nat := e.frame.path ++ [e.earlier.length]

/-- `e.offer` is what the entry is served as: its conditions are joined with those inherited on the
way. -/
def offer (e : Entry) : Offer :=
  ⟨hostRef e.frame.owner, e.route, e.frame.inherited ++ e.route.conditions⟩

end Entry

/-- `Serves hosts e` says that the entry `e` is served when its host is entered. -/
structure Serves [Pattern.Engine] (hosts : OrderedMap Identity GatewayHost) (e : Entry) : Prop where
  /-- Nothing stops the host up to the entry. -/
  runs : Runs hosts e.frame e.earlier e.route
  /-- The entry is not handed over to a delegate. -/
  own : e.route.delegate = none

/-- `Reached hosts f e` says that a walk from `f` comes to the entry `e` and serves it. -/
structure Reached [Pattern.Engine] (hosts : OrderedMap Identity GatewayHost) (f : RouteFrame)
    (e : Entry) :
    Prop where
  /-- The host is entered. -/
  enters : Enters hosts f e.frame
  /-- The entry is served. -/
  serves : Serves hosts e

/-- `ReachedBehind hosts f earlier e` says that the walk from `f` comes to `e` after it is done with
the routes `earlier` of the host where it begins. -/
inductive ReachedBehind [Pattern.Engine] (hosts : OrderedMap Identity GatewayHost) (f : RouteFrame)
    (earlier : List RouteSpec) (e : Entry) : Prop
  /-- The entry is one of the host. -/
  | own (frame : e.frame = f) (serves : Serves hosts e) (behind : earlier <+: e.earlier)
  /-- The entry is one of a host further down. -/
  | below {before : List RouteSpec} {route : RouteSpec} {d : Delegate} {child : GatewayHost}
      (runs : Runs hosts f before route) (delegate : route.delegate = some d)
      (found : hosts.find? (d.target f.owner.space) = some child) (behind : earlier <+: before)
      (reached : Reached hosts (f.through before route (d.target f.owner.space) child) e)

/-- Behind no route there are all entries that are `Reached`. -/
theorem reachedBehind_nil {f : RouteFrame} {e : Entry} :
    ReachedBehind hosts f [] e ↔ Reached hosts f e := by
  constructor
  · intro h
    cases h with
    | own frame serves behind => exact ⟨by rw [frame], serves⟩
    | below runs delegate found behind reached =>
      exact ⟨.head (.intro runs delegate found) reached.enters, reached.serves⟩
  · rintro ⟨enters, serves⟩
    -- the chain to the entry either stops at this frame or leaves it by a first delegation
    rcases ReflTransGen.cases_head enters with heq | ⟨g, hdel, hrest⟩
    · exact .own heq.symm serves List.nil_prefix
    · cases hdel with
      | intro runs delegate found =>
        exact .below runs delegate found List.nil_prefix ⟨hrest, serves⟩

/-- There is no entry behind all routes. -/
theorem not_reachedBehind_all {f : RouteFrame} {e : Entry} :
    ¬ ReachedBehind hosts f f.routes e := by
  intro h
  cases h with
  -- an entry behind all routes would stand at a place beyond the end of the list
  | own frame serves behind =>
    have hplace := serves.runs.place.length_le
    have hbehind := behind.length_le
    rw [frame, List.length_append, List.length_singleton] at hplace
    omega
  | below runs delegate found behind reached =>
    have hplace := runs.place.length_le
    have hbehind := behind.length_le
    rw [List.length_append, List.length_singleton] at hplace
    omega

/-- There is no entry behind the routes before one that stops the host: the walk ends there. -/
theorem not_reachedBehind_of_stops {f : RouteFrame} {earlier rest : List RouteSpec}
    {route : RouteSpec} {e : Entry} (split : f.routes = earlier ++ route :: rest)
    (stops : Stops hosts f route) : ¬ ReachedBehind hosts f earlier e := by
  intro h
  cases h with
  | own frame serves behind =>
    have hruns := serves.runs
    rw [frame] at hruns
    exact hruns.not_stops_of_split split behind stops
  | below runs delegate found behind reached => exact runs.not_stops_of_split split behind stops

/-- The entries behind some routes are those of the next `route` and those behind it. -/
theorem reachedBehind_cons {f : RouteFrame} {earlier rest : List RouteSpec} {route : RouteSpec}
    {e : Entry} (split : f.routes = earlier ++ route :: rest) :
    ReachedBehind hosts f earlier e ↔
      (e = ⟨f, earlier, route⟩ ∧ Serves hosts e) ∨
      (∃ d child, Runs hosts f earlier route ∧ route.delegate = some d ∧
        hosts.find? (d.target f.owner.space) = some child ∧
        Reached hosts (f.through earlier route (d.target f.owner.space) child) e) ∨
      ReachedBehind hosts f (earlier ++ [route]) e := by
  constructor
  · intro h
    cases h with
    | own frame serves behind =>
      have hruns := serves.runs
      rw [frame] at hruns
      -- the entry is this very route, or one of those after it
      rcases hruns.here_or_later split behind with ⟨hearlier, hroute⟩ | hlater
      · refine .inl ⟨?_, serves⟩
        -- equal frame, equal place and equal route make the same entry
        obtain ⟨frame', earlier', route'⟩ := e
        cases frame
        cases hearlier
        cases hroute
        rfl
      · exact .inr (.inr (.own frame serves hlater))
    | below runs delegate found behind reached =>
      rcases runs.here_or_later split behind with ⟨rfl, rfl⟩ | hlater
      · exact .inr (.inl ⟨_, _, runs, delegate, found, reached⟩)
      · exact .inr (.inr (.below runs delegate found hlater reached))
  · rintro (⟨rfl, serves⟩ | ⟨d, child, runs, delegate, found, reached⟩ | h)
    · exact .own rfl serves (List.prefix_refl _)
    · exact .below runs delegate found (List.prefix_refl _) reached
    · have hbefore : earlier <+: earlier ++ [route] := List.prefix_append _ _
      cases h with
      | own frame serves behind => exact .own frame serves (hbefore.trans behind)
      | below runs delegate found behind reached =>
        exact .below runs delegate found (hbefore.trans behind) reached

/-- A route that is served comes before the entries behind it: it is the only entry of its own. -/
theorem reachedBehind_serve {f : RouteFrame} {earlier rest : List RouteSpec} {route : RouteSpec}
    {e : Entry} (split : f.routes = earlier ++ route :: rest) (runs : Runs hosts f earlier route)
    (own : route.delegate = none) :
    ReachedBehind hosts f earlier e ↔
      e = ⟨f, earlier, route⟩ ∨ ReachedBehind hosts f (earlier ++ [route]) e := by
  rw [reachedBehind_cons split]
  constructor
  · rintro (⟨rfl, -⟩ | ⟨d, child, -, delegate, -⟩ | h)
    · exact .inl rfl
    · rw [own] at delegate
      cases delegate
    · exact .inr h
  · rintro (rfl | h)
    · exact .inl ⟨rfl, runs, own⟩
    · exact .inr (.inr h)

/-- A route whose delegate is missing has no entries, and the walk goes on behind it. -/
theorem reachedBehind_skip {f : RouteFrame} {earlier rest : List RouteSpec} {route : RouteSpec}
    {d : Delegate} {e : Entry} (split : f.routes = earlier ++ route :: rest)
    (delegate : route.delegate = some d) (missing : hosts.find? (d.target f.owner.space) = none) :
    ReachedBehind hosts f earlier e ↔ ReachedBehind hosts f (earlier ++ [route]) e := by
  rw [reachedBehind_cons split]
  constructor
  · rintro (⟨rfl, serves⟩ | ⟨d', child, -, delegate', found, -⟩ | h)
    · rw [serves.own] at delegate
      cases delegate
    · rw [delegate] at delegate'
      cases delegate'
      rw [missing] at found
      cases found
    · exact h
  · exact fun h => .inr (.inr h)

/-- The entries of a delegate come before those behind the route that delegates, as the delegate is
entered before the next route is looked at. -/
theorem reachedBehind_enter {f : RouteFrame} {earlier rest : List RouteSpec} {route : RouteSpec}
    {d : Delegate} {child : GatewayHost} {e : Entry} (split : f.routes = earlier ++ route :: rest)
    (runs : Runs hosts f earlier route) (delegate : route.delegate = some d)
    (found : hosts.find? (d.target f.owner.space) = some child) :
    ReachedBehind hosts f earlier e ↔
      Reached hosts (f.through earlier route (d.target f.owner.space) child) e ∨
        ReachedBehind hosts f (earlier ++ [route]) e := by
  rw [reachedBehind_cons split]
  constructor
  -- a route that delegates serves nothing itself, and it has only one child
  · rintro (⟨rfl, serves⟩ | ⟨d', child', -, delegate', found', h⟩ | h)
    · rw [serves.own] at delegate
      cases delegate
    · rw [delegate] at delegate'
      cases delegate'
      rw [found] at found'
      cases found'
      exact .inl h
    · exact .inr h
  · rintro (h | h)
    · exact .inr (.inl ⟨d, child, runs, delegate, found, h⟩)
    · exact .inr (.inr h)

/-! ### The order of the entries -/

/-- A host that is entered from another one has longer positions: those of `f` are in front of those
of `g`. -/
theorem Enters.path_extends {f g : RouteFrame} (h : Enters hosts f g) : f.path <+: g.path := by
  induction h with
  | refl => exact List.prefix_refl _
  | tail _ hdel ih =>
    cases hdel with
    | intro runs delegate found => exact ih.trans (List.prefix_append _ _)

theorem Reached.path_extends {f : RouteFrame} {e : Entry} (h : Reached hosts f e) :
    f.path <+: e.path :=
  h.enters.path_extends.trans (List.prefix_append _ _)

/-- The positions of an entry behind some routes: those of the host, then a number that is at least
`earlier.length`. -/
theorem ReachedBehind.path_eq {f : RouteFrame} {earlier : List RouteSpec} {e : Entry}
    (h : ReachedBehind hosts f earlier e) :
    ∃ k rest, earlier.length ≤ k ∧ e.path = f.path ++ k :: rest := by
  cases h with
  | own frame serves behind =>
    exact ⟨_, [], behind.length_le, by rw [Entry.path, frame]⟩
  | @below before route d child runs delegate found behind reached =>
    obtain ⟨rest, hrest⟩ := reached.path_extends
    refine ⟨before.length, rest, behind.length_le, ?_⟩
    rw [← hrest]
    simp [RouteFrame.through]

/-- An earlier position comes first, whatever follows in `s` and `t`. -/
theorem path_lt_of_lt {p s t : List Nat} {k l : Nat} (h : k < l) : p ++ k :: s < p ++ l :: t := by
  refine List.append_left_lt ?_
  rw [List.cons_lt_cons_iff]
  exact .inl h

/-! ### The entries of a walk -/

/-- The entries that a walk serves: they come in the order of their positions, and they are those
that are `ReachedBehind` the routes that are done.  What comes after a host that completes is served
last. -/
theorem Walk.entries {finish : List Step} {f : RouteFrame} {earlier rest : List RouteSpec}
    {steps : List Step} (h : Walk hosts finish f earlier rest steps) :
    ∃ entries : List Entry, ∃ last : List Offer,
      steps.filterMap Step.offer? = entries.map Entry.offer ++ last ∧
      (Completes hosts f → last = finish.filterMap Step.offer?) ∧
      (¬ Completes hosts f → last = []) ∧
      entries.Pairwise (fun d e => d.path < e.path) ∧
      ∀ e, e ∈ entries ↔ ReachedBehind hosts f earlier e := by
  induction h with
  | done split ok =>
    refine ⟨[], _, ?_, fun _ => rfl, fun h => absurd ok h, .nil, fun e => ?_⟩
    · rw [List.filterMap_append]
      simp [Step.offer?, Step.accept]
    · rw [← split]
      simp [not_reachedBehind_all]
  | stop leads split stops known closes =>
    refine ⟨[], [], ?_, fun h => ?_, fun _ => rfl, .nil, fun e => ?_⟩
    · simp [Step.offer?, Step.reject, Function.comp_def]
    · exact absurd stops (h _ (by simp [split]))
    · simp [not_reachedBehind_of_stops split stops]
  | @serve finish f earlier route rest steps split runs own next ih =>
    obtain ⟨entries, last, hsteps, hok, hnot, hsorted, hmem⟩ := ih
    refine ⟨⟨f, earlier, route⟩ :: entries, last, ?_, hok, hnot, ?_, fun e => ?_⟩
    · rw [List.filterMap_cons]
      simp only [Step.offer?, hsteps, List.map_cons, List.cons_append]
      rfl
    · -- the entries behind the route have greater positions
      refine List.pairwise_cons.mpr ⟨fun e he => ?_, hsorted⟩
      obtain ⟨k, rest', hk, hpath⟩ := ((hmem e).mp he).path_eq
      rw [hpath]
      rw [List.length_append, List.length_singleton] at hk
      exact path_lt_of_lt hk
    · rw [reachedBehind_serve split runs own, List.mem_cons, hmem]
  | @skip finish f earlier route rest steps d split runs delegate missing next ih =>
    obtain ⟨entries, last, hsteps, hok, hnot, hsorted, hmem⟩ := ih
    refine ⟨entries, last, hsteps, hok, hnot, hsorted, fun e => ?_⟩
    rw [reachedBehind_skip split delegate missing, hmem]
  | @enter finish f earlier route rest inner steps d child split runs delegate found below next
      ihBelow ihNext =>
    obtain ⟨entries, last, hsteps, hok, hnot, hsorted, hmem⟩ := ihNext
    obtain ⟨entries', last', hsteps', hok', hnot', hsorted', hmem'⟩ := ihBelow
    -- nothing comes after a delegate, whether it completes or not
    have hlast' : last' = [] := by
      by_cases hcompletes : Completes hosts (f.through earlier route (d.target f.owner.space) child)
      · exact hok' hcompletes
      · exact hnot' hcompletes
    refine ⟨entries' ++ entries, last, ?_, hok, hnot, ?_, fun e => ?_⟩
    · rw [List.filterMap_cons]
      simp [Step.offer?, List.filterMap_append, hsteps, hsteps', hlast']
    · -- the positions below the route start with its own, the others go on with a greater one
      refine List.pairwise_append.mpr ⟨hsorted', hsorted, fun e' he' e he => ?_⟩
      obtain ⟨rest', hrest'⟩ := (reachedBehind_nil.mp ((hmem' e').mp he')).path_extends
      obtain ⟨k, rest'', hk, hpath⟩ := ((hmem e).mp he).path_eq
      rw [List.length_append, List.length_singleton] at hk
      rw [hpath, ← hrest']
      simp only [RouteFrame.through, List.append_assoc, List.singleton_append]
      exact path_lt_of_lt hk
    · rw [reachedBehind_enter split runs delegate found, List.mem_append, hmem, hmem',
        reachedBehind_nil]

/-! ### Chains of delegating routes -/

/-- `Linked hosts chain links` says that `links` are the routes along `chain`: each of them belongs
to a host of the chain and delegates to the next one. -/
inductive Linked (hosts : OrderedMap Identity GatewayHost) :
    List Identity → List RouteSpec → Prop
  /-- A chain of one host has no links. -/
  | root (root : Identity) : Linked hosts [root] []
  /-- The last host of a chain delegates further. -/
  | link {chain : List Identity} {owner : Identity} {links : List RouteSpec} {host : GatewayHost}
      {route : RouteSpec} {d : Delegate} (linked : Linked hosts chain links)
      (last : chain.getLast? = some owner) (found : hosts.find? owner = some host)
      (own : route ∈ host.routes) (delegate : route.delegate = some d) :
      Linked hosts (chain ++ [d.target owner.space]) (links ++ [route])

/-- A host is entered with its own routes, as they stand in the cache. -/
theorem Enters.routes_eq {root : Identity} {host : GatewayHost} {g : RouteFrame}
    (hfound : hosts.find? root = some host) (h : Enters hosts (.ofRoot root host) g) :
    ∃ owner, hosts.find? g.owner = some owner ∧ g.routes = owner.routes := by
  cases h with
  | refl => exact ⟨host, hfound, rfl⟩
  | tail _ hdel =>
    cases hdel with
    | intro runs delegate found => exact ⟨_, found, rfl⟩

/-- The conditions on the way to a host are those of the delegating routes along its chain, one
after the other. -/
theorem Enters.linked {root : Identity} {host : GatewayHost} {g : RouteFrame}
    (hfound : hosts.find? root = some host) (h : Enters hosts (.ofRoot root host) g) :
    ∃ links, Linked hosts g.chain links ∧ g.inherited = links.flatMap RouteSpec.conditions := by
  induction h with
  | refl => exact ⟨[], .root root, rfl⟩
  | @tail f g hf hdel ih =>
    obtain ⟨links, hlinked, hinherited⟩ := ih
    obtain ⟨owner, howner, hroutes⟩ := Enters.routes_eq hfound hf
    cases hdel with
    | @intro earlier route d child runs delegate found =>
      -- the new link ends at the child, and its conditions come behind those inherited so far
      refine ⟨links ++ [route], ?_, ?_⟩
      · refine .link hlinked (Enters.isChain hfound hf).last howner ?_ delegate
        rw [← hroutes]
        exact runs.place.subset (List.mem_append_right _ (List.mem_singleton_self _))
      · simp [RouteFrame.through, hinherited]

end GatewayCompiler.Build
