import GatewayCompiler.Build.Walk
import Mathlib.Data.List.Nodup
import Mathlib.Logic.Relation

/-!
# Walks over delegations

`routeSteps` answers with a list of steps.  Here the same walk is described by relations: which hosts
are entered with which arguments, which route makes a host give up the rest, and which routes are
served on the way.  A statement about a build speaks of these relations; the list of steps is only
how they are computed.

## Main definitions

* `RouteFrame` — the arguments with which a host is entered.
* `Stops` — a route makes its host give up the routes from there on.
* `Runs` — a route is reached and does not stop its host.
* `Delegates`, `Enters` — one host is entered from another, at once or by and by.
* `Completes` — no route stops the host.
* `Walk` — the steps of a walk over routes, by its own rules.

## Main statements

* `walk_routeSteps` — `routeSteps` follows the rules.
* `Walk.origin` — every step belongs to a host that is entered, or comes after a complete root.
* `Walk.settles`, `Walk.of_delegates` — every entered host gets an outcome.
-/

namespace GatewayCompiler.Build

open Relation

variable {engine : Pattern.Engine}

/-! ### Hosts that are entered -/

/-- The arguments with which the routes of a host are entered: those of `routeSteps`, and the
positions of the routes on the way. -/
structure RouteFrame where
  /-- The positions of the delegating routes on the way from the root. -/
  path : List Nat
  /-- The hosts on the way; the last one is the owner. -/
  chain : List Identity
  /-- The host that is entered. -/
  owner : Identity
  /-- The conditions of the delegating routes on the way. -/
  inherited : List Condition
  /-- The routes of the host. -/
  routes : List RouteSpec

/-- A root is entered first, with no conditions. -/
def RouteFrame.ofRoot (root : Identity) (host : GatewayHost) : RouteFrame :=
  ⟨[], [root], root, [], host.routes⟩

/-- `f.through earlier route target child` are the arguments with which the delegate `child` is
entered from the route after `earlier`. -/
def RouteFrame.through (f : RouteFrame) (earlier : List RouteSpec) (route : RouteSpec)
    (target : Identity) (child : GatewayHost) : RouteFrame :=
  ⟨f.path ++ [earlier.length], f.chain ++ [target], target, f.inherited ++ route.conditions,
    child.routes⟩

variable {hosts : OrderedMap Identity GatewayHost}

/-- `Stops hosts f route` says that `route` makes its host give up the routes from there on.  There
is a rule for each of the reasons. -/
inductive Stops [Pattern.Engine] (hosts : OrderedMap Identity GatewayHost) (f : RouteFrame)
    (route : RouteSpec) :
    Prop
  /-- Its conditions are malformed. -/
  | conditions (error : ConditionError) (h : checkConditions route.conditions = .error error)
  /-- It has services and a delegate. -/
  | both (h : route.delegate.isSome) (services : route.services ≠ [])
  /-- It delegates under a pattern. -/
  | regex (h : route.delegate.isSome) (regex : hasRegex route.conditions)
  /-- Its delegate is on the way already. -/
  | cycle (d : Delegate) (child : GatewayHost) (h : route.delegate = some d)
      (found : hosts.find? (d.target f.owner.space) = some child)
      (seen : d.target f.owner.space ∈ f.chain)
  /-- Its delegate is a root. -/
  | root (d : Delegate) (child : GatewayHost) (h : route.delegate = some d)
      (found : hosts.find? (d.target f.owner.space) = some child)
      (root : child.virtualHost.isSome)

/-- `Closes hosts f route way` says that `route` delegates back to a host on the way, so that the
way to this host and on to its delegate closes a cycle. -/
def Closes (hosts : OrderedMap Identity GatewayHost) (f : RouteFrame) (route : RouteSpec)
    (way : List Identity) : Prop :=
  ∃ (d : Delegate) (child : GatewayHost), route.delegate = some d ∧
    hosts.find? (d.target f.owner.space) = some child ∧ d.target f.owner.space ∈ f.chain ∧
    way = f.chain ++ [d.target f.owner.space]

/-- `Runs hosts f earlier route` says that `route` is reached behind `earlier` ones, and neither
they nor the route itself stop the host. -/
structure Runs [Pattern.Engine] (hosts : OrderedMap Identity GatewayHost) (f : RouteFrame)
    (earlier : List RouteSpec) (route : RouteSpec) : Prop where
  /-- The place of the route. -/
  place : earlier ++ [route] <+: f.routes
  /-- Nothing stops the host up to the route. -/
  goesOn : ∀ r ∈ earlier ++ [route], ¬ Stops hosts f r

/-- `Completes hosts f` says that no route stops the host. -/
def Completes [Pattern.Engine] (hosts : OrderedMap Identity GatewayHost) (f : RouteFrame) : Prop :=
  ∀ route ∈ f.routes, ¬ Stops hosts f route

/-- `Delegates hosts f g` says that the host entered with `f` has a route from which the host of `g`
is entered. -/
inductive Delegates [Pattern.Engine] (hosts : OrderedMap Identity GatewayHost) :
    RouteFrame → RouteFrame → Prop
  /-- The route runs, and its delegate is there. -/
  | intro {f : RouteFrame} {earlier : List RouteSpec} {route : RouteSpec} {d : Delegate}
      {child : GatewayHost} (runs : Runs hosts f earlier route) (delegate : route.delegate = some d)
      (found : hosts.find? (d.target f.owner.space) = some child) :
      Delegates hosts f (f.through earlier route (d.target f.owner.space) child)

/-- `Enters hosts f g` says that the host entered with `g` is entered from that of `f`, itself
included, over any number of others. -/
abbrev Enters [Pattern.Engine] (hosts : OrderedMap Identity GatewayHost) :
    RouteFrame → RouteFrame → Prop :=
  ReflTransGen (Delegates hosts)

/-! ### The rules of a walk -/

/-- `Walk hosts finish f earlier rest steps` says that the routes `rest` of the host entered with
`f`, of which the routes `earlier` are done, come to the given steps. -/
inductive Walk [Pattern.Engine] (hosts : OrderedMap Identity GatewayHost) :
    List Step → RouteFrame → List RouteSpec → List RouteSpec → List Step → Prop
  /-- All routes are done. -/
  | done {finish f earlier} (split : f.routes = earlier) (ok : Completes hosts f) :
      Walk hosts finish f earlier [] (finish ++ [.accept f.owner])
  /-- The route is at fault; a delegate that is the reason is reached all the same. -/
  | stop {finish f earlier route rest problem} (leads : List Identity)
      (split : f.routes = earlier ++ route :: rest) (stops : Stops hosts f route)
      (known : ∀ t ∈ leads, t ∈ f.chain ∨ ∃ child : GatewayHost,
        hosts.find? t = some child ∧ child.virtualHost.isSome)
      (closes : ∀ way, problem = .routeCycle way → Closes hosts f route way) :
      Walk hosts finish f earlier (route :: rest) (leads.map .reach ++ [.reject f.owner problem])
  /-- The route is served. -/
  | serve {finish f earlier route rest steps} (split : f.routes = earlier ++ route :: rest)
      (runs : Runs hosts f earlier route) (own : route.delegate = none)
      (next : Walk hosts finish f (earlier ++ [route]) rest steps) :
      Walk hosts finish f earlier (route :: rest)
        (.serve (hostRef f.owner) route (f.inherited ++ route.conditions) :: steps)
  /-- The delegate of the route is not there. -/
  | skip {finish f earlier route rest steps} {d : Delegate}
      (split : f.routes = earlier ++ route :: rest) (runs : Runs hosts f earlier route)
      (delegate : route.delegate = some d)
      (missing : hosts.find? (d.target f.owner.space) = none)
      (next : Walk hosts finish f (earlier ++ [route]) rest steps) :
      Walk hosts finish f earlier (route :: rest) steps
  /-- The delegate of the route is entered. -/
  | enter {finish f earlier route rest inner steps} {d : Delegate} {child : GatewayHost}
      (split : f.routes = earlier ++ route :: rest) (runs : Runs hosts f earlier route)
      (delegate : route.delegate = some d)
      (found : hosts.find? (d.target f.owner.space) = some child)
      (below : Walk hosts [] (f.through earlier route (d.target f.owner.space) child) []
        child.routes inner)
      (next : Walk hosts finish f (earlier ++ [route]) rest steps) :
      Walk hosts finish f earlier (route :: rest)
        (.reach (d.target f.owner.space) :: (inner ++ steps))


/-! ### The steps follow the rules -/

theorem checkRoute_eq_ok_iff {route : RouteSpec} :
    checkRoute route = .ok () ↔
      checkConditions route.conditions = .ok () ∧ (route.delegate.isSome → route.services = []) := by
  unfold checkRoute
  cases h : checkConditions route.conditions with
  | error e => simp
  | ok _ =>
    by_cases hb : route.delegate.isSome ∧ route.services ≠ []
    · simp [hb]
    · simp only [hb, if_false, true_and]
      simpa using hb

/-- What is wrong with a route before its delegate is looked up is no cycle: `checkRoute` does not
know the chain. -/
theorem checkRoute_ne_routeCycle {route : RouteSpec} {problem : Problem}
    (h : checkRoute route = .error problem) (way : List Identity) : problem ≠ .routeCycle way := by
  rintro rfl
  unfold checkRoute at h
  split at h
  · cases h
  · split at h
    · cases h
    · cases h

/-- The reasons for which `checkRoute` refuses a route, before its delegate is looked up, stop the
host. -/
theorem Stops.of_checkRoute {f : RouteFrame} {route : RouteSpec} {problem : Problem}
    (h : checkRoute route = .error problem) : Stops hosts f route := by
  unfold checkRoute at h
  cases hc : checkConditions route.conditions with
  | error e => exact .conditions e hc
  | ok _ =>
    simp only [hc] at h
    split at h
    · next hb => exact .both hb.1 hb.2
    · cases h

/-- A route that passes all checks does not stop its host, wherever its delegate is then. -/
theorem not_stops {f : RouteFrame} {route : RouteSpec} (h : checkRoute route = .ok ())
    (hregex : route.delegate.isSome → ¬ hasRegex route.conditions)
    (htarget : ∀ (d : Delegate) (child : GatewayHost), route.delegate = some d →
      hosts.find? (d.target f.owner.space) = some child →
      d.target f.owner.space ∉ f.chain ∧ child.virtualHost = none) :
    ¬ Stops hosts f route := by
  obtain ⟨hconds, hboth⟩ := checkRoute_eq_ok_iff.mp h
  intro hstops
  cases hstops with
  | conditions e he => rw [hconds] at he; cases he
  | both hd hs => exact hs (hboth hd)
  | regex hd hr => exact hregex hd hr
  | cycle d child hd hfound hseen => exact (htarget d child hd hfound).1 hseen
  | root d child hd hfound hroot =>
    rw [(htarget d child hd hfound).2] at hroot
    cases hroot

theorem Runs.of_split {f : RouteFrame} {earlier rest : List RouteSpec} {route : RouteSpec}
    (split : f.routes = earlier ++ route :: rest) (hearlier : ∀ r ∈ earlier, ¬ Stops hosts f r)
    (hroute : ¬ Stops hosts f route) : Runs hosts f earlier route where
  place := ⟨rest, by rw [split]; simp⟩
  goesOn := by
    intro r hr
    rcases List.mem_append.mp hr with hr | hr
    · exact hearlier r hr
    · rw [List.mem_singleton.mp hr]
      exact hroute

/-- The steps for a route and those after it, without the measure for which `routeSteps` ends. -/
theorem routeSteps_cons (finish : List Step) (chain : List Identity) (owner : Identity)
    (inherited : List Condition) (route : RouteSpec) (rest : List RouteSpec) :
    routeSteps hosts finish chain owner inherited (route :: rest) =
      match checkRoute route with
      | .error problem => [.reject owner problem]
      | .ok _ =>
        match route.delegate with
        | none =>
          .serve (hostRef owner) route (inherited ++ route.conditions)
            :: routeSteps hosts finish chain owner inherited rest
        | some delegate =>
          if hasRegex route.conditions then [.reject owner .regexDelegated]
          else
            let target := delegate.target owner.space
            match hosts.find? target with
            | none => routeSteps hosts finish chain owner inherited rest
            | some child =>
              .reach target ::
                if target ∈ chain then [.reject owner (.routeCycle (chain ++ [target]))]
                else if child.virtualHost.isSome then [.reject owner (.delegateIsRoot target)]
                else
                  routeSteps hosts [] (chain ++ [target]) target (inherited ++ route.conditions)
                      child.routes
                    ++ routeSteps hosts finish chain owner inherited rest := by
  rw [routeSteps]
  -- unfolding the walk leaves a `match` that remembers the lookup's equation, which the plain form
  -- drops
  cases hcheck : checkRoute route with
  | error problem => rfl
  | ok _ =>
    cases hdelegate : route.delegate with
    | none => rfl
    | some delegate =>
      simp only
      congr 1
      split
      · next hmissing => rw [hmissing]
      · next child hfound =>
        rw [hfound]
        rfl

/-- The routes of a host that leaves nothing to others are served one after the other, and then
comes `finish`. -/
theorem routeSteps_of_own {finish : List Step} {chain : List Identity} {owner : Identity}
    {inherited : List Condition} {routes : List RouteSpec}
    (h : ∀ r ∈ routes, checkRoute r = .ok () ∧ r.delegate = none) :
    routeSteps hosts finish chain owner inherited routes =
      routes.map (fun r => .serve (hostRef owner) r (inherited ++ r.conditions))
        ++ (finish ++ [.accept owner]) := by
  induction routes with
  | nil =>
    rw [routeSteps]
    rfl
  | cons route rest ih =>
    obtain ⟨hcheck, hown⟩ := h route List.mem_cons_self
    rw [routeSteps]
    simp only [hcheck, hown]
    rw [ih fun r hr => h r (List.mem_cons_of_mem _ hr)]
    rfl

/-- The single route of a host that leaves nothing to others is served. -/
theorem routeSteps_of_single {finish : List Step} {chain : List Identity} {owner : Identity}
    {inherited : List Condition} {route : RouteSpec} (hcheck : checkRoute route = .ok ())
    (hown : route.delegate = none) :
    routeSteps hosts finish chain owner inherited [route] =
      .serve (hostRef owner) route (inherited ++ route.conditions) :: (finish ++ [.accept owner]) :=
  routeSteps_of_own (List.forall_mem_singleton.mpr ⟨hcheck, hown⟩)

/-- A route that does not stop its host joins the ones before it: with them it makes up the
`earlier` ones for the next route. -/
theorem next_of_earlier {finish : List Step} {path : List Nat} {chain : List Identity}
    {owner : Identity} {inherited : List Condition} {earlier rest : List RouteSpec}
    {route : RouteSpec} {steps : List Step}
    (hearlier : ∀ r ∈ earlier,
      ¬ Stops hosts ⟨path, chain, owner, inherited, earlier ++ route :: rest⟩ r)
    (hroute : ¬ Stops hosts ⟨path, chain, owner, inherited, earlier ++ route :: rest⟩ route)
    (h : (∀ r ∈ earlier ++ [route],
        ¬ Stops hosts ⟨path, chain, owner, inherited, (earlier ++ [route]) ++ rest⟩ r) →
      Walk hosts finish ⟨path, chain, owner, inherited, (earlier ++ [route]) ++ rest⟩
        (earlier ++ [route]) rest steps) :
    Walk hosts finish ⟨path, chain, owner, inherited, earlier ++ route :: rest⟩
      (earlier ++ [route]) rest steps := by
  rw [show (earlier ++ [route]) ++ rest = earlier ++ route :: rest by simp] at h
  refine h fun r hr => ?_
  rcases List.mem_append.mp hr with hr | hr
  · exact hearlier r hr
  · rw [List.mem_singleton.mp hr]
    exact hroute

/-- The steps for the rest of the routes of a host follow the rules of `Walk`, whatever routes are
done before.  The recursion is that of `routeSteps`: into a delegate, and on to the next route. -/
theorem walk_of_earlier (finish : List Step) (chain : List Identity) (owner : Identity)
    (inherited : List Condition) (rest : List RouteSpec) :
    ∀ (path : List Nat) (earlier : List RouteSpec),
      (∀ r ∈ earlier, ¬ Stops hosts ⟨path, chain, owner, inherited, earlier ++ rest⟩ r) →
      Walk hosts finish ⟨path, chain, owner, inherited, earlier ++ rest⟩ earlier rest
        (routeSteps hosts finish chain owner inherited rest) := by
  -- the cases are those of the recursion; the routes before are carried along, since none of them
  -- has stopped the host
  induction finish, chain, owner, inherited, rest using routeSteps.induct hosts with
  | case1 finish chain owner inherited =>
    intro path earlier hearlier
    rw [routeSteps]
    refine .done (by simp) fun r hr => hearlier r (by simpa using hr)
  | case2 finish chain owner inherited route rest problem hcheck =>
    intro path earlier hearlier
    rw [routeSteps]
    simp only [hcheck]
    exact .stop [] rfl (.of_checkRoute hcheck) (by simp) fun way heq =>
      absurd heq (checkRoute_ne_routeCycle hcheck way)
  | case3 finish chain owner inherited route rest u hcheck hown ih =>
    intro path earlier hearlier
    have hroute : ¬ Stops hosts ⟨path, chain, owner, inherited, earlier ++ route :: rest⟩ route :=
      not_stops hcheck (by simp [hown]) (by simp [hown])
    rw [routeSteps]
    simp only [hcheck, hown]
    exact .serve rfl (.of_split rfl (fun r hr => hearlier r hr) hroute) hown
      (next_of_earlier hearlier hroute (ih path (earlier ++ [route])))
  | case4 finish chain owner inherited route rest u hcheck d hd hregex =>
    intro path earlier hearlier
    rw [routeSteps]
    simp only [hcheck, hd, hregex, if_true]
    exact .stop [] rfl (.regex (by simp [hd]) hregex) (by simp) (by rintro _ ⟨⟩)
  | case5 finish chain owner inherited route rest u hcheck d hd hregex hmissing ih =>
    intro path earlier hearlier
    have hroute : ¬ Stops hosts ⟨path, chain, owner, inherited, earlier ++ route :: rest⟩ route :=
      not_stops hcheck (fun _ => hregex) fun d' child hd' hfound => by
        rw [hd] at hd'
        cases hd'
        rw [hmissing] at hfound
        cases hfound
    rw [routeSteps]
    simp only [hcheck, hd, hregex, Bool.false_eq_true, if_false]
    split
    · exact .skip rfl (.of_split rfl hearlier hroute) hd hmissing
        (next_of_earlier hearlier hroute (ih path (earlier ++ [route])))
    · next child hfound =>
      rw [hmissing] at hfound
      cases hfound
  | case6 finish chain owner inherited route rest u hcheck d hd hregex child hfound below ih =>
    intro path earlier hearlier
    rw [routeSteps]
    simp only [hcheck, hd, hregex, Bool.false_eq_true, if_false]
    split
    · next hmissing =>
      rw [hfound] at hmissing
      cases hmissing
    · next child' hfound' =>
      obtain rfl : child = child' := Option.some.inj (hfound.symm.trans hfound')
      by_cases hseen : d.target owner.space ∈ chain
      · simp only [hseen, dite_true]
        refine .stop [d.target owner.space] rfl (.cycle d child hd hfound hseen)
          (by simp [hseen]) ?_
        rintro _ ⟨⟩
        exact ⟨d, child, hd, hfound, hseen, rfl⟩
      · simp only [hseen, dite_false]
        by_cases hroot : child.virtualHost.isSome
        · simp only [hroot, if_true]
          exact .stop [d.target owner.space] rfl (.root d child hd hfound hroot)
            (by simp [hfound, hroot]) (by rintro _ ⟨⟩)
        · simp only [hroot, Bool.false_eq_true, if_false]
          have hroute :
              ¬ Stops hosts ⟨path, chain, owner, inherited, earlier ++ route :: rest⟩ route :=
            not_stops hcheck (fun _ => hregex) fun d' child' hd' hfound' => by
              obtain rfl : d = d' := Option.some.inj (hd.symm.trans hd')
              obtain rfl : child = child' := Option.some.inj (hfound.symm.trans hfound')
              exact ⟨hseen, by simpa using hroot⟩
          exact .enter rfl (.of_split rfl hearlier hroute) hd hfound
            (below hseen (path ++ [earlier.length]) [] (by simp))
            (next_of_earlier hearlier hroute (ih path (earlier ++ [route])))

/-- The steps of a walk follow the rules of `Walk`.  All that is shown of `routeSteps` from here on
is shown by induction on these rules. -/
theorem walk_routeSteps (finish : List Step) (f : RouteFrame) :
    Walk hosts finish f [] f.routes
      (routeSteps hosts finish f.chain f.owner f.inherited f.routes) :=
  walk_of_earlier finish f.chain f.owner f.inherited f.routes f.path [] (by simp)

/-! ### What the rules say about the steps -/

/-- `OwnStep hosts f s` says that an entered host makes the step `s` itself, not by way of a
delegate. -/
inductive OwnStep [Pattern.Engine] (hosts : OrderedMap Identity GatewayHost) (f : RouteFrame) :
    Step → Prop
  /-- It serves a route of its own. -/
  | serve (route : RouteSpec) (conditions : List Condition) :
      OwnStep hosts f (.serve (hostRef f.owner) route conditions)
  /-- It is at fault. -/
  | reject (problem : Problem) : OwnStep hosts f (.reject f.owner problem)
  /-- It is in order. -/
  | accept : OwnStep hosts f (.accept f.owner)
  /-- It leads back to a host on the way. -/
  | back (target : Identity) (seen : target ∈ f.chain) : OwnStep hosts f (.reach target)
  /-- It leads to a root. -/
  | root (target : Identity) (child : GatewayHost) (found : hosts.find? target = some child)
      (root : child.virtualHost.isSome) : OwnStep hosts f (.reach target)
  /-- It leads to a host that is entered. -/
  | enter (g : RouteFrame) (h : Delegates hosts f g) : OwnStep hosts f (.reach g.owner)

/-- Every step is made by a host that is entered, or it is one of `finish`, after a host that
completes. -/
theorem Walk.origin {finish : List Step} {f : RouteFrame} {earlier rest : List RouteSpec}
    {steps : List Step} (h : Walk hosts finish f earlier rest steps) {s : Step} (hs : s ∈ steps) :
    s ∈ finish ∧ Completes hosts f ∨ ∃ g, Enters hosts f g ∧ OwnStep hosts g s := by
  induction h with
  | done split ok =>
    rcases List.mem_append.mp hs with hs | hs
    · exact .inl ⟨hs, ok⟩
    · rw [List.mem_singleton.mp hs]
      exact .inr ⟨_, .refl, .accept⟩
  | stop leads split stops known closes =>
    -- a walk that stops either meets a host of its own chain again or a root
    rcases List.mem_append.mp hs with hs | hs
    · obtain ⟨t, ht, rfl⟩ := List.mem_map.mp hs
      rcases known t ht with hseen | ⟨child, hfound, hroot⟩
      · exact .inr ⟨_, .refl, .back t hseen⟩
      · exact .inr ⟨_, .refl, .root t child hfound hroot⟩
    · rw [List.mem_singleton.mp hs]
      exact .inr ⟨_, .refl, .reject _⟩
  | serve split runs own next ih =>
    rcases List.mem_cons.mp hs with rfl | hs
    · exact .inr ⟨_, .refl, .serve _ _⟩
    · exact ih hs
  | skip split runs delegate missing next ih => exact ih hs
  | enter split runs delegate found below next ihBelow ihNext =>
    have hdelegates := Delegates.intro runs delegate found
    rcases List.mem_cons.mp hs with rfl | hs
    · exact .inr ⟨_, .refl, .enter _ hdelegates⟩
    · rcases List.mem_append.mp hs with hs | hs
      -- below the child nothing is finished, so its walk has no step of the finishing list
      · rcases ihBelow hs with ⟨hnil, -⟩ | ⟨g, hg, hown⟩
        · cases hnil
        · exact .inr ⟨g, .head hdelegates hg, hown⟩
      · exact ihNext hs

/-- Every host that is entered gets an outcome: where a route stops it, or at the end of its
routes. -/
theorem Walk.settles {finish : List Step} {f : RouteFrame} {earlier rest : List RouteSpec}
    {steps : List Step} (h : Walk hosts finish f earlier rest steps) :
    ∃ outcome, .settle (hostRef f.owner) outcome ∈ steps := by
  induction h with
  | done split ok => exact ⟨.valid .gatewayHost, List.mem_append_right _ (List.mem_singleton_self _)⟩
  | stop leads split stops known closes =>
    exact ⟨.invalid _, List.mem_append_right _ (List.mem_singleton_self _)⟩
  | serve split runs own next ih => exact ih.imp fun _ h => List.mem_cons_of_mem _ h
  | skip split runs delegate missing next ih => exact ih
  | enter split runs delegate found below next ihBelow ihNext =>
    exact ihNext.imp fun _ h => List.mem_cons_of_mem _ (List.mem_append_right _ h)

/-- What comes after a host that completes is done: none of `finish` is left out. -/
theorem Walk.finish_subset {finish : List Step} {f : RouteFrame} {earlier rest : List RouteSpec}
    {steps : List Step} (h : Walk hosts finish f earlier rest steps) (ok : Completes hosts f) :
    finish ⊆ steps := by
  induction h with
  | done split ok' => exact List.subset_append_left _ _
  | stop leads split stops known closes => exact absurd stops (ok _ (by simp [split]))
  | serve split runs own next ih => exact List.subset_cons_of_subset _ (ih ok)
  | skip split runs delegate missing next ih => exact ih ok
  | enter split runs delegate found below next ihBelow ihNext =>
    exact List.subset_cons_of_subset _ (List.subset_append_of_subset_right _ (ihNext ok))

/-- A walk that is not beyond a route that runs stands at that route or has one more before it.  In
both cases the next route `r` does not stop the host. -/
theorem Runs.here_or_later {f : RouteFrame} {earlier before rest : List RouteSpec}
    {route r : RouteSpec} (split : f.routes = earlier ++ r :: rest)
    (runs : Runs hosts f before route) (hle : earlier <+: before) :
    (before = earlier ∧ route = r) ∨ earlier ++ [r] <+: before := by
  obtain ⟨between, rfl⟩ := hle
  obtain ⟨later, hplace⟩ := runs.place
  rw [split, List.append_assoc, List.append_assoc] at hplace
  have hrest := List.append_cancel_left hplace
  cases between with
  | nil =>
    simp only [List.nil_append, List.singleton_append, List.cons.injEq] at hrest
    exact .inl ⟨by simp, hrest.1⟩
  | cons m between =>
    simp only [List.cons_append, List.cons.injEq] at hrest
    exact .inr ⟨between, by simp [hrest.1]⟩

theorem Runs.not_stops_of_split {f : RouteFrame} {earlier before rest : List RouteSpec}
    {route r : RouteSpec} (split : f.routes = earlier ++ r :: rest)
    (runs : Runs hosts f before route) (hle : earlier <+: before) : ¬ Stops hosts f r := by
  refine runs.goesOn r ?_
  rcases runs.here_or_later split hle with ⟨-, rfl⟩ | h
  · exact List.mem_append_right _ (List.mem_singleton_self _)
  · exact List.mem_append_left _ (h.subset (List.mem_append_right _ (List.mem_singleton_self _)))

/-- A host that is entered makes its steps within those of the host that delegates to it, even when
some routes of that host are done already. -/
theorem Walk.of_delegates_from {finish : List Step} {f g : RouteFrame}
    {earlier rest : List RouteSpec} {steps : List Step}
    (h : Walk hosts finish f earlier rest steps) {before : List RouteSpec} {route : RouteSpec}
    {d : Delegate} {child : GatewayHost} (runs : Runs hosts f before route)
    (delegate : route.delegate = some d) (found : hosts.find? (d.target f.owner.space) = some child)
    (hg : g = f.through before route (d.target f.owner.space) child) (hle : earlier <+: before) :
    .reach g.owner ∈ steps ∧ ∃ inner, Walk hosts [] g [] g.routes inner ∧ inner ⊆ steps := by
  induction h with
  | done split ok =>
    have hlen := runs.place.length_le
    have := hle.length_le
    simp [split] at hlen
    omega
  | stop leads split stops known closes => exact absurd stops (runs.not_stops_of_split split hle)
  -- the route that delegates is the next one, or it comes later
  | serve split runs' own next ih =>
    rcases runs.here_or_later split hle with ⟨rfl, rfl⟩ | hle
    · rw [own] at delegate
      cases delegate
    · obtain ⟨hreach, inner, hwalk, hsub⟩ := ih runs found hg hle
      exact ⟨List.mem_cons_of_mem _ hreach, inner, hwalk, List.subset_cons_of_subset _ hsub⟩
  | skip split runs' delegate' missing next ih =>
    rcases runs.here_or_later split hle with ⟨rfl, rfl⟩ | hle
    · rw [delegate] at delegate'
      cases delegate'
      rw [found] at missing
      cases missing
    · exact ih runs found hg hle
  | enter split runs' delegate' found' below next ihBelow ihNext =>
    rcases runs.here_or_later split hle with ⟨rfl, rfl⟩ | hle
    · rw [delegate] at delegate'
      cases delegate'
      rw [found] at found'
      cases found'
      subst hg
      exact ⟨List.mem_cons_self, _, below,
        List.subset_cons_of_subset _ (List.subset_append_left _ _)⟩
    · obtain ⟨hreach, inner, hwalk, hsub⟩ := ihNext runs found hg hle
      exact ⟨List.mem_cons_of_mem _ (List.mem_append_right _ hreach), inner, hwalk,
        List.subset_cons_of_subset _ (List.subset_append_of_subset_right _ hsub)⟩

/-- A host that is entered makes its steps within those of the host that delegates to it, and it is
reached by the step before them. -/
theorem Walk.of_delegates {finish : List Step} {f g : RouteFrame} {steps : List Step}
    (h : Walk hosts finish f [] f.routes steps) (hg : Delegates hosts f g) :
    .reach g.owner ∈ steps ∧ ∃ inner, Walk hosts [] g [] g.routes inner ∧ inner ⊆ steps := by
  cases hg with
  | intro runs delegate found =>
    exact h.of_delegates_from runs delegate found rfl (List.nil_prefix)

/-- Every host that is entered gets an outcome within the steps of the host that it is entered
from. -/
theorem Walk.settles_of_enters {finish : List Step} {f g : RouteFrame} {steps : List Step}
    (h : Walk hosts finish f [] f.routes steps) (hg : Enters hosts f g) :
    ∃ outcome, .settle (hostRef g.owner) outcome ∈ steps := by
  induction hg using ReflTransGen.head_induction_on generalizing finish steps with
  | refl => exact h.settles
  | head hdel _ ih =>
    obtain ⟨-, inner, hinner, hsub⟩ := h.of_delegates hdel
    exact (ih hinner).imp fun _ hmem => hsub hmem

/-- Every host that is entered from another one is reached by a delegation, so that it has a step
`.reach`. -/
theorem Walk.reaches_of_enters {finish : List Step} {f g : RouteFrame} {steps : List Step}
    (h : Walk hosts finish f [] f.routes steps) (hg : Enters hosts f g) :
    g = f ∨ .reach g.owner ∈ steps := by
  induction hg using ReflTransGen.head_induction_on generalizing finish steps with
  | refl => exact .inl rfl
  | head hdel _ ih =>
    obtain ⟨hreach, inner, hinner, hsub⟩ := h.of_delegates hdel
    rcases ih hinner with rfl | hmem
    · exact .inr hreach
    · exact .inr (hsub hmem)

/-! ### The hosts on the way -/

theorem Delegates.chain_eq {f g : RouteFrame} (h : Delegates hosts f g) :
    g.chain = f.chain ++ [g.owner] := by
  cases h
  rfl

/-- A host is entered only if it is not on the way already, which is what ends every walk. -/
theorem Delegates.notMem_chain {f g : RouteFrame} (h : Delegates hosts f g) :
    g.owner ∉ f.chain := by
  cases h with
  | @intro earlier route d child runs delegate found =>
    intro hseen
    exact runs.goesOn route (List.mem_append_right _ (List.mem_singleton_self _))
      (.cycle d child delegate found hseen)

/-- A host that is entered from another one is no root: it has no virtual host. -/
theorem Delegates.find?_owner {f g : RouteFrame} (h : Delegates hosts f g) :
    ∃ child, hosts.find? g.owner = some child ∧ child.virtualHost = none := by
  cases h with
  | @intro earlier route d child runs delegate found =>
    refine ⟨child, found, ?_⟩
    by_contra hroot
    exact runs.goesOn route (List.mem_append_right _ (List.mem_singleton_self _))
      (.root d child delegate found (Option.isSome_iff_ne_none.mpr hroot))

/-- `IsChain hosts root chain owner` says that `chain` is the chain of a host that is entered from a
root: it leads from `root` to `owner`, has no host twice, and all of its hosts are there. -/
structure IsChain (hosts : OrderedMap Identity GatewayHost) (root : Identity)
    (chain : List Identity) (owner : Identity) : Prop where
  /-- It begins with the root. -/
  head : chain.head? = some root
  /-- It ends with the host. -/
  last : chain.getLast? = some owner
  /-- No host comes twice. -/
  nodup : chain.Nodup
  /-- All hosts are there. -/
  cached : ∀ i ∈ chain, hosts.contains i

theorem IsChain.root {root : Identity} {host : GatewayHost} (h : hosts.find? root = some host) :
    IsChain hosts root [root] root where
  head := rfl
  last := rfl
  nodup := List.nodup_singleton root
  cached := by
    intro i hi
    rw [List.mem_singleton.mp hi]
    simp [OrderedMap.contains, h]

theorem IsChain.append {root owner target : Identity} {chain : List Identity} {child : GatewayHost}
    (h : IsChain hosts root chain owner) (hfound : hosts.find? target = some child)
    (hnew : target ∉ chain) : IsChain hosts root (chain ++ [target]) target where
  head := by
    rw [List.head?_append, h.head]
    rfl
  last := by simp
  -- the target is not on the chain yet, which keeps the chain free of repetitions
  nodup := by
    rw [List.nodup_append]
    refine ⟨h.nodup, List.nodup_singleton _, fun a ha b hb => ?_⟩
    rw [List.mem_singleton.mp hb]
    rintro rfl
    exact hnew ha
  cached := by
    intro i hi
    rcases List.mem_append.mp hi with hi | hi
    · exact h.cached i hi
    · rw [List.mem_singleton.mp hi]
      simp [OrderedMap.contains, hfound]

theorem Enters.isChain {root : Identity} {host : GatewayHost} {g : RouteFrame}
    (hfound : hosts.find? root = some host) (h : Enters hosts (.ofRoot root host) g) :
    IsChain hosts root g.chain g.owner := by
  induction h with
  | refl => exact .root hfound
  | tail _ hdel ih =>
    obtain ⟨child, hchild, -⟩ := hdel.find?_owner
    rw [hdel.chain_eq]
    exact ih.append hchild hdel.notMem_chain

/-- Every host on the way was entered, with the part of the chain that ends at it. -/
theorem Enters.of_mem_chain {root : Identity} {host : GatewayHost} {g : RouteFrame}
    (h : Enters hosts (.ofRoot root host) g) {i : Identity} (hi : i ∈ g.chain) :
    ∃ f, Enters hosts (.ofRoot root host) f ∧ f.owner = i := by
  induction h with
  | refl => exact ⟨_, .refl, (List.mem_singleton.mp hi).symm⟩
  | tail hf hdel ih =>
    rw [hdel.chain_eq] at hi
    rcases List.mem_append.mp hi with hi | hi
    · exact ih hi
    · exact ⟨_, hf.tail hdel, (List.mem_singleton.mp hi).symm⟩

end GatewayCompiler.Build
