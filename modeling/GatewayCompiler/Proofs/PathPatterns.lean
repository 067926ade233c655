import GatewayCompiler.Proofs.Growth
import GatewayCompiler.Proofs.PathSpace
import GatewayCompiler.Proofs.Pattern.Limits

/-!
# The patterns of a graph

The path of a request is tested by a pattern in three cases.  A path of an ingress is taken for a
pattern because of its characters, and nobody asks whether it is one.  An entry of a host or of a
service route has a pattern that is accepted.  Where a host has inherited a beginning of paths, the
pattern is written behind the beginning, and the whole is not checked again: it is well-formed, but
an engine may refuse it all the same.

## Main definitions

* `Graph.HasPattern` — a route of a graph tests the path by a pattern.
* `FromIngress`, `FromEntry` — where patterns come from.

## Main statements

* `Offered.conditions_eq` — the conditions that a served entry inherits have no pattern.
* `pattern_of_visit` — every pattern of a graph comes from an ingress or an entry.
* `patterns_accepted_iff` — when all patterns of a graph are accepted.
* `bracket_not_accepted` — a graph with a pattern that is not.
-/

namespace GatewayCompiler

/-- `g.HasPattern pattern` says that a route of `g` tests the path by `pattern`. -/
def Graph.HasPattern (g : Graph) (pattern : String) : Prop :=
  ∃ route, .route route ∈ g.visits ∧ route.path = .regex pattern

namespace Build

section

variable {engine : Pattern.Engine} {cache : Cache}

/-! ### Where patterns come from -/

/-- `FromIngress cache pattern` says that `pattern` is a path of an ingress which is taken for a
pattern. -/
inductive FromIngress (cache : Cache) (pattern : String) : Prop
  /-- The path has one of the characters that make it a pattern. -/
  | intro {i : Identity} {ingress : Ingress} {entry : IngressEntry}
      (found : cache.ingresses.find? i = some ingress)
      (entry_mem : entry ∈ ingressPaths ingress.spec) (path : entry.path = pattern)
      (special : pattern.toList.any patternChars.contains = true)

/-- `FromEntry cache lead pattern` says that an entry that is served has `pattern` behind the
beginning `lead` that it inherits. -/
inductive FromEntry [Pattern.Engine] (cache : Cache) (lead pattern : String) : Prop
  /-- The pattern stands in a condition of the entry, and the beginning is what the inherited
  conditions come to without the slashes at its end. -/
  | intro {offer : Offer} {inherited own : List Condition} {merged : String} {c : Condition}
      (offered : Offered cache offer) (conditions : offer.conditions = inherited ++ own)
      (checked : checkConditions own = .ok ()) (inherits : mergePath inherited = .startsWith merged)
      (beginning : lead = String.ofList (dropEndSlashes merged.toList)) (own_mem : c ∈ own)
      (regex : c.pathRegex = some pattern)

/-- The pattern of an entry is accepted by itself, since the check of its route asks the engine. -/
theorem FromEntry.accepts {lead pattern : String} (h : FromEntry cache lead pattern) :
    Pattern.accepts pattern = true := by
  obtain ⟨-, -, checked, -, -, own_mem, regex⟩ := h
  have hcheck := (of_checkConditions checked).2 _ own_mem
  rw [regex] at hcheck
  exact checkRegex_eq_ok_iff.mp hcheck _ rfl

/-! ### Conditions of entries -/

/-- A host is entered with conditions that have no pattern: an entry with one does not delegate. -/
theorem Enters.pathRegex_inherited {hosts : OrderedMap Identity GatewayHost} {root : Identity}
    {host : GatewayHost} {g : RouteFrame} (h : Enters hosts (.ofRoot root host) g) :
    ∀ c ∈ g.inherited, c.pathRegex = none := by
  induction h with
  | refl => exact fun _ hc => absurd hc List.not_mem_nil
  | tail _ hdel ih =>
    cases hdel with
    | @intro earlier route d child runs delegate found =>
      intro c hc
      rcases List.mem_append.mp hc with hc | hc
      · exact ih c hc
      · -- a route with a pattern does not delegate
        by_contra hsome
        have hregex : hasRegex route.conditions :=
          List.any_eq_true.mpr ⟨c, hc, Option.isSome_iff_ne_none.mpr hsome⟩
        exact runs.goesOn route (by simp) (.regex (by rw [delegate]; rfl) hregex)

/-- The conditions of a served route are inherited ones without a pattern, and its own ones, which
pass `checkConditions`. -/
theorem Offered.conditions_eq {offer : Offer} (h : Offered cache offer) :
    ∃ inherited own, offer.conditions = inherited ++ own ∧
      (∀ c ∈ inherited, c.pathRegex = none) ∧ checkConditions own = .ok () := by
  -- a reached entry has passed its check, and so has a merged route
  cases h with
  | @entry root host v mode e accepted serves reached =>
    refine ⟨e.frame.inherited, e.route.conditions, rfl, reached.enters.pathRegex_inherited, ?_⟩
    cases hcheck : checkConditions e.route.conditions with
    | ok _ => rfl
    | error error =>
      exact absurd (.conditions error hcheck) (reached.serves.runs.goesOn e.route (by simp))
  | @merged root host v mode offer accepted serves completes mem =>
    obtain ⟨p, -, hmem⟩ := List.mem_flatMap.mp mem
    obtain ⟨route, hroute, rfl⟩ := List.mem_map.mp hmem
    refine ⟨[], route.conditions, rfl, by simp, ?_⟩
    have hserved := List.mem_takeWhile_imp hroute
    cases hcheck : checkConditions route.conditions with
    | ok _ => rfl
    | error error => simp [isServed, hcheck, Except.isOk, Except.toBool] at hserved

/-- Only conditions with a pattern are merged to one. -/
theorem exists_pattern_of_mergePathFrom {start : List Char} {conditions : List Condition}
    {pattern : String} (h : mergePathFrom start conditions = .regex pattern) :
    ∃ c ∈ conditions, ∃ own, c.pathRegex = some own := by
  by_contra hnot
  have hnone : ∀ c ∈ conditions, c.pathRegex = none := by
    intro c hc
    by_contra hsome
    obtain ⟨own, hown⟩ := Option.ne_none_iff_exists'.mp hsome
    exact hnot ⟨c, hc, own, hown⟩
  obtain ⟨merged, hmerged, -⟩ := @mergePathFrom_prefixes start _ hnone
  rw [hmerged] at h
  cases h

/-- The pattern of a served entry is its own one behind the beginning that it inherits, written with
`Pattern.escape`. -/
theorem Offered.pattern {offer : Offer} (h : Offered cache offer) {pattern : String}
    (hpath : mergePath offer.conditions = .regex pattern) :
    ∃ lead own, pattern = Pattern.escape lead ++ own ∧ FromEntry cache lead own := by
  obtain ⟨inherited, own, hconditions, hnone, hchecked⟩ := h.conditions_eq
  obtain ⟨merged, hmerged, -⟩ := @mergePathFrom_prefixes ['/'] _ hnone
  rw [hconditions, mergePath, mergePathFrom_append hmerged] at hpath
  obtain ⟨c, hc, regex, hregex⟩ := exists_pattern_of_mergePathFrom hpath
  rw [mergePathFrom_pattern (of_checkConditions hchecked).1 hc hregex] at hpath
  obtain rfl := PathMatch.regex.inj hpath
  exact ⟨_, regex, rfl, .intro h hconditions hchecked hmerged rfl hc hregex⟩

/-! ### Routes -/

/-- A pattern of a route that a host gets comes from an ingress or an entry, by `FromIngress` or
`FromEntry`. -/
theorem Attached.pattern {route : Route} (h : Attached cache route) {pattern : String}
    (hpath : route.path = .regex pattern) :
    FromIngress cache pattern ∨
      ∃ lead own, pattern = Pattern.escape lead ++ own ∧ FromEntry cache lead own := by
  cases h with
  | @entry offer route offered made resolved upgrade =>
    obtain ⟨filters, hshape⟩ := made.shape
    have hmerge : route.path = mergePath offer.conditions := (congrArg Route.path hshape).trans rfl
    exact .inr (offered.pattern (hmerge.symm.trans hpath))
  | @ingress i ingress entry service selector backend found entry_mem named resolved upgrade =>
    -- the path of an ingress becomes a pattern only for the special type of path
    have hmatch : ingressMatch entry.path = .regex pattern := hpath
    unfold ingressMatch at hmatch
    split at hmatch
    · next hspecial =>
      cases hmatch
      exact .inl (.intro found entry_mem rfl hspecial)
    · cases hmatch

/-- Every pattern of a graph comes from an ingress or an entry. -/
theorem pattern_of_visit {pattern : String} (h : (Graph.build cache).HasPattern pattern) :
    FromIngress cache pattern ∨
      ∃ lead own, pattern = Pattern.escape lead ++ own ∧ FromEntry cache lead own := by
  obtain ⟨route, hvisit, hpath⟩ := h
  exact (attached_of_visit hvisit).pattern hpath

/-- The pattern of an entry stays well-formed behind the beginning that it inherits, and it grows by
little more than the beginning: `e'` is what is read of the longer one. -/
theorem FromEntry.grows [Pattern.LawfulEngine] {lead own : String} (h : FromEntry cache lead own) :
    ∃ e e', Pattern.read? own = some e ∧ Pattern.read? (Pattern.escape lead ++ own) = some e' ∧
      e'.depth ≤ e.depth + 1 ∧ e'.length = e.length + lead.length := by
  obtain ⟨e, hread⟩ := Option.isSome_iff_exists.mp (Pattern.LawfulEngine.wellFormed h.accepts)
  obtain ⟨e', hread', hdepth, hlength⟩ := Pattern.read?_escape_append lead hread
  exact ⟨e, e', hread, hread', hdepth, hlength⟩

/-- **Where patterns come from**, and when all those of the graph of `cache` are accepted.  Each of
them is a path of an ingress, or the pattern `own` of an entry behind the beginning `lead` that the
entry inherits.  The pattern `own` is accepted by itself; behind `lead` it is well-formed, nested
one level deeper at most and longer by the characters of `lead`.  So all patterns are accepted if
and only if two kinds of them are, which nobody checks: those from ingresses, and those behind a
beginning that is not empty. -/
theorem patterns_accepted_iff [Pattern.LawfulEngine] (cache : Cache) :
    (∀ pattern, (Graph.build cache).HasPattern pattern → FromIngress cache pattern ∨
      ∃ lead own, pattern = Pattern.escape lead ++ own ∧ FromEntry cache lead own) ∧
    (∀ lead own, FromEntry cache lead own → Pattern.accepts own = true ∧
      ∃ e e', Pattern.read? own = some e ∧ Pattern.read? (Pattern.escape lead ++ own) = some e' ∧
        e'.depth ≤ e.depth + 1 ∧ e'.length = e.length + lead.length) ∧
    ((∀ pattern, (Graph.build cache).HasPattern pattern → Pattern.accepts pattern = true) ↔
      (∀ pattern, (Graph.build cache).HasPattern pattern → FromIngress cache pattern →
        Pattern.accepts pattern = true) ∧
      ∀ lead own, (Graph.build cache).HasPattern (Pattern.escape lead ++ own) →
        FromEntry cache lead own → lead ≠ "" →
        Pattern.accepts (Pattern.escape lead ++ own) = true) := by
  refine ⟨fun _ => pattern_of_visit, fun _ _ h => ⟨h.accepts, h.grows⟩, ?_, ?_⟩
  · intro hall
    exact ⟨fun pattern hpattern _ => hall pattern hpattern,
      fun lead own hpattern _ _ => hall _ hpattern⟩
  · rintro ⟨hingress, hentry⟩ pattern hpattern
    rcases pattern_of_visit hpattern with hfrom | ⟨lead, own, rfl, hfrom⟩
    · exact hingress pattern hpattern hfrom
    · by_cases hlead : lead = ""
      · -- without a beginning the pattern is the one of the entry
        rw [hlead, show Pattern.escape "" = "" from rfl, String.empty_append]
        exact hfrom.accepts
      · exact hentry lead own hpattern hfrom hlead

end

/-! ### A path that is no pattern -/

/-- An ingress with the path `/[`, which has a bracket and is taken for a pattern. -/
def bracketIngress : Ingress where
  metadata := { name := some "site", space := some "default" }
  spec := {
    className := none
    defaultBackend := none
    rules := [⟨some "site.test", [⟨some "/[", some ⟨"web", some ⟨some 80, none⟩⟩⟩]⟩]
    tls := [] }

/-- A cache with the ingress and its service. -/
def bracketCache : Cache where
  ingresses := .ofList [(⟨"default", "site"⟩, bracketIngress)]
  services := .ofList [(⟨"default", "web"⟩,
    ⟨{ name := some "web", space := some "default" }, none, none, [⟨none, 80⟩]⟩)]

/-- The patterns of the graph are accepted if and only if those of its ingress are, and those behind a
beginning, of which `bracketCache` has none. -/
theorem bracket_accepted_iff : Pattern.LawfulEngine ∧
    ((∀ pattern, (Graph.build bracketCache).HasPattern pattern → Pattern.accepts pattern = true) ↔
      (∀ pattern, (Graph.build bracketCache).HasPattern pattern → FromIngress bracketCache pattern →
        Pattern.accepts pattern = true) ∧
      ∀ lead own, (Graph.build bracketCache).HasPattern (Pattern.escape lead ++ own) →
        FromEntry bracketCache lead own → lead ≠ "" →
        Pattern.accepts (Pattern.escape lead ++ own) = true) :=
  ⟨inferInstance, (patterns_accepted_iff bracketCache).2.2⟩

/-- The path `/[` is a pattern of the graph, and there is no engine that accepts it: a bracket stays
open. -/
theorem bracket_not_accepted :
    ¬ ∃ _ : Pattern.Engine, Pattern.LawfulEngine ∧
      ∀ pattern, (Graph.build bracketCache).HasPattern pattern → Pattern.accepts pattern = true := by
  rintro ⟨_, lawful, hall⟩
  have hpattern : (Graph.build bracketCache).HasPattern "/[" :=
    ⟨_, List.mem_of_getElem? (i := 2) rfl, rfl⟩
  have hread : (Pattern.read? "/[").isSome = true := lawful.wellFormed (hall "/[" hpattern)
  exact absurd hread (by decide)

end Build

end GatewayCompiler
