import GatewayCompiler.Proofs.Conditions
import GatewayCompiler.Proofs.Pattern.LeadIn
import Mathlib.Data.List.DropRight

/-!
# Which paths a delegate may serve

A host that delegates the paths behind a beginning hands on the conditions for that beginning, and
the delegate puts its own conditions behind them.  The paths of the delegate then begin as they
should, with one exception: a pattern of the delegate is written behind the literal beginning as it
stands, so that the beginning belongs to its first alternative only.

## Main definitions

* `Confines` — all paths that pass a test have a given beginning.
* `Escapes` — a pattern has a later alternative for a path without the beginning.

## Main statements

* `mergePathFrom_append`, `mergePathFrom_prefixes`, `mergePathFrom_pattern` — how conditions are
  merged.
* `confines_mergePath_iff` — when a delegate stays behind the beginning.
-/

namespace GatewayCompiler

/-! ### Slashes -/

theorem dropEndSlashes_isPrefix (cs : List Char) : dropEndSlashes cs <+: cs :=
  List.rdropWhile_prefix _ cs

/-- What is put behind a text without slashes at its end does not change the text. -/
theorem dropEndSlashes_isPrefix_append (front back : List Char) :
    dropEndSlashes front <+: dropEndSlashes (dropEndSlashes front ++ back) := by
  -- the end of `front` has no slash left, so dropping again reaches into `back` only
  have hfront : (dropEndSlashes front).reverse.dropWhile (· = '/')
      = (dropEndSlashes front).reverse := by
    unfold dropEndSlashes
    rw [List.reverse_reverse, List.dropWhile_idempotent]
  rw [dropEndSlashes.eq_def (dropEndSlashes front ++ back), List.reverse_append,
    List.dropWhile_append]
  split
  · have hsame : dropEndSlashes front =
        ((dropEndSlashes front).reverse.dropWhile (· = '/')).reverse := by
      rw [hfront, List.reverse_reverse]
    exact ⟨[], by rw [List.append_nil]; exact hsame⟩
  · rw [List.reverse_append, List.reverse_reverse]
    exact List.prefix_append _ _

/-! ### Merging -/

/-- A condition keeps the beginning `start`, its slashes at the end excepted. -/
theorem Condition.isPrefix_extend (c : Condition) (start : List Char) :
    dropEndSlashes start <+: dropEndSlashes (c.extend start) := by
  unfold Condition.extend
  split
  · exact dropEndSlashes_isPrefix_append start _
  · exact List.prefix_refl _

theorem mergePathFrom_cons_none {c : Condition} (h : c.pathRegex = none) (start : List Char)
    (rest : List Condition) :
    mergePathFrom start (c :: rest) = mergePathFrom (c.extend start) rest := by
  rw [mergePathFrom, h]

theorem mergePathFrom_cons_some {c : Condition} {pattern : String} (h : c.pathRegex = some pattern)
    (start : List Char) (rest : List Condition) :
    mergePathFrom start (c :: rest) =
      .regex (Pattern.escape (String.ofList (dropEndSlashes start)) ++ pattern) := by
  rw [mergePathFrom, h]

/-- Conditions without a pattern only lengthen the beginning, so that `back` goes on from what
`front` comes to. -/
theorem mergePathFrom_append {start : List Char} {front back : List Condition} {merged : String}
    (h : mergePathFrom start front = .startsWith merged) :
    mergePathFrom start (front ++ back) = mergePathFrom merged.toList back := by
  -- over the conditions in front: a regex among them is an error, so each only extends the start
  induction front generalizing start with
  | nil =>
    cases h
    rw [String.toList_ofList]
    rfl
  | cons c rest ih =>
    cases hregex : c.pathRegex with
    | some pattern =>
      rw [mergePathFrom_cons_some hregex] at h
      cases h
    | none =>
      rw [mergePathFrom_cons_none hregex] at h
      rw [List.cons_append, mergePathFrom_cons_none hregex]
      exact ih h

/-- Without a pattern the beginning stays in front, its slashes at the end excepted. -/
theorem mergePathFrom_prefixes {start : List Char} {conditions : List Condition}
    (h : ∀ c ∈ conditions, c.pathRegex = none) :
    ∃ merged, mergePathFrom start conditions = .startsWith merged ∧
      dropEndSlashes start <+: merged.toList := by
  induction conditions generalizing start with
  | nil =>
    refine ⟨String.ofList start, rfl, ?_⟩
    rw [String.toList_ofList]
    exact dropEndSlashes_isPrefix start
  | cons c rest ih =>
    rw [mergePathFrom_cons_none (h c List.mem_cons_self)]
    obtain ⟨merged, hmerged, hstart⟩ :=
      @ih (c.extend start) fun d hd => h d (List.mem_cons_of_mem _ hd)
    exact ⟨merged, hmerged, (c.isPrefix_extend start).trans hstart⟩

theorem pathCount_cons (c : Condition) (rest : List Condition) :
    pathCount (c :: rest) =
      c.pathPrefix.toList.length + c.pathRegex.toList.length + pathCount rest := by
  unfold pathCount
  rw [List.flatMap_cons, List.length_append, List.length_append]

/-- A condition with a pattern counts, so that there is at least one test of the path. -/
theorem pathCount_pos {conditions : List Condition} {c : Condition} {pattern : String}
    (hc : c ∈ conditions) (hpattern : c.pathRegex = some pattern) : 1 ≤ pathCount conditions := by
  induction conditions with
  | nil => cases hc
  | cons d rest ih =>
    rw [pathCount_cons]
    rcases List.mem_cons.mp hc with rfl | hc
    · rw [hpattern, Option.toList_some, List.length_singleton]
      omega
    · have := ih hc
      omega

/-- A pattern that is the only test of the path is put behind the literal beginning. -/
theorem mergePathFrom_pattern {start : List Char} {conditions : List Condition} {c : Condition}
    {pattern : String} (hcount : pathCount conditions ≤ 1) (hc : c ∈ conditions)
    (hpattern : c.pathRegex = some pattern) :
    mergePathFrom start conditions =
      .regex (Pattern.escape (String.ofList (dropEndSlashes start)) ++ pattern) := by
  induction conditions with
  | nil => cases hc
  | cons d rest ih =>
    rcases List.mem_cons.mp hc with rfl | hc
    · exact mergePathFrom_cons_some hpattern start rest
    · -- the pattern further behind is the only test, so that this condition has none
      have hpos := pathCount_pos hc hpattern
      rw [pathCount_cons] at hcount
      have hregex : d.pathRegex = none :=
        Option.toList_eq_nil_iff.mp (List.length_eq_zero_iff.mp (by omega))
      have hbeginning : d.pathPrefix = none :=
        Option.toList_eq_nil_iff.mp (List.length_eq_zero_iff.mp (by omega))
      rw [mergePathFrom_cons_none hregex, Condition.extend, hbeginning]
      exact ih (by omega) hc

/-! ### Checked conditions -/

/-- A pattern that passes the check has alternatives, as a lawful engine accepts only patterns that
can be read. -/
theorem branches_of_checkRegex [Pattern.Engine] [Pattern.LawfulEngine] {pattern : String} (h : checkRegex (some pattern) = .ok ()) :
    ∃ branches, Pattern.readBranches? pattern = some branches := by
  have haccepts := checkRegex_eq_ok_iff.mp h pattern rfl
  have hread := Pattern.LawfulEngine.wellFormed haccepts
  rw [Pattern.read?, Option.isSome_map] at hread
  exact Option.isSome_iff_exists.mp hread

/-- Conditions that pass the checks test the path at most once, and their patterns are accepted. -/
theorem of_checkConditions [Pattern.Engine] {conditions : List Condition}
    (h : checkConditions conditions = .ok ()) :
    pathCount conditions ≤ 1 ∧ ∀ c ∈ conditions, checkRegex c.pathRegex = .ok () := by
  have hpaths : checkPaths conditions = .ok () := by
    cases hpaths : checkPaths conditions with
    | ok _ => rfl
    | error e =>
      rw [checkConditions, hpaths] at h
      cases h
  obtain ⟨hcount, -, hregex⟩ := checkPaths_eq_ok_iff.mp hpaths
  rw [pathCount_eq]
  exact ⟨hcount, fun c hc => checkRegex_eq_ok_iff.mpr (hregex c hc)⟩

/-! ### Confinement -/

/-- `Confines m space test` says that all paths that pass `test` begin with `space`, where `m` says
what is matched. -/
def Confines (m : Pattern.Meaning) (space : List Char) (test : PathMatch) : Prop :=
  ∀ path, test.Matches m path → space <+: path.toList

/-- `Escapes m space conditions` says that a pattern among the conditions has an alternative, other
than the first one, for a text without the beginning `space`. -/
def Escapes (m : Pattern.Meaning) (space : List Char) (conditions : List Condition) : Prop :=
  ∃ c ∈ conditions, ∃ pattern ∈ c.pathRegex, ∃ first others,
    Pattern.readBranches? pattern = some (first :: others) ∧
      ∃ b ∈ others, ∃ word, b.Matches m word ∧ ¬ space <+: word

/-- A pattern behind a literal `text` confines paths to the text if and only if no later alternative
matches other texts.  The text is put in front of the first alternative only. -/
theorem Pattern.confines_escape_iff {m : Pattern.Meaning} {pattern : String} {first : Expr}
    {others : List Expr} (hread : readBranches? pattern = some (first :: others))
    (text : List Char) :
    Confines m text (.regex (escape (String.ofList text) ++ pattern)) ↔
      ∀ b ∈ others, ∀ word, b.Matches m word → text <+: word := by
  obtain ⟨parts, others', hbranches, hread'⟩ := readBranches?_escape (String.ofList text) hread
  rw [String.toList_ofList] at hread'
  cases hbranches
  have hmatches (word : List Char) :
      (Expr.ofBranches (.ofParts (literal text ++ parts) :: others)).Matches m word ↔
        (Expr.ofParts (literal text ++ parts)).Matches m word ∨
          ∃ b ∈ others, b.Matches m word := by
    unfold Expr.Matches
    rw [Expr.spans_ofBranches (List.cons_ne_nil _ _)]
    simp
  constructor
  · intro hconfines b hb word hword
    have hpath : (Expr.ofBranches (.ofParts (literal text ++ parts) :: others)).Matches m
        (String.ofList word).toList := by
      rw [String.toList_ofList]
      exact (hmatches word).mpr (.inr ⟨b, hb, hword⟩)
    have hstart := hconfines (String.ofList word)
      ⟨_, congrArg (Option.map Expr.ofBranches) hread', hpath⟩
    rwa [String.toList_ofList] at hstart
  · rintro hothers path ⟨e, he, hpath⟩
    rw [read?, hread'] at he
    cases he
    rcases (hmatches path.toList).mp hpath with hfirst | ⟨b, hb, hother⟩
    · -- the literal text belongs to the first alternative
      obtain ⟨k, hliteral, -⟩ := Expr.spansAll_append.mp (Expr.spans_ofParts.mp hfirst)
      exact (Expr.spansAll_literal.mp hliteral).1
    · exact hothers b hb _ hother

/-- **When a delegate keeps to its paths.** A delegate whose conditions pass the checks stays behind
the beginning that it is given if and only if its pattern, if it has one, has no later alternative
for other paths. -/
theorem confines_mergePath_iff [Pattern.Engine] [Pattern.LawfulEngine] (m : Pattern.Meaning)
    {inherited conditions : List Condition} {merged : String} (inherits : mergePath inherited = .startsWith merged)
    (checked : checkConditions conditions = .ok ()) :
    Confines m (dropEndSlashes merged.toList) (mergePath (inherited ++ conditions)) ↔
      ¬ Escapes m (dropEndSlashes merged.toList) conditions := by
  obtain ⟨hcount, hregex⟩ := of_checkConditions checked
  have hmerge : mergePath (inherited ++ conditions) = mergePathFrom merged.toList conditions :=
    mergePathFrom_append inherits
  rw [hmerge]
  constructor
  · rintro hconfines ⟨c, hc, pattern, hpattern, first, others, hread, b, hb, word, hword, hout⟩
    rw [mergePathFrom_pattern hcount hc hpattern] at hconfines
    exact hout ((Pattern.confines_escape_iff hread _).mp hconfines b hb word hword)
  · intro hstays
    -- with a pattern everything depends on its later alternatives, without one on nothing
    by_cases hpatterns : ∃ c ∈ conditions, ∃ pattern, c.pathRegex = some pattern
    · obtain ⟨c, hc, pattern, hpattern⟩ := hpatterns
      have hcheck := hregex c hc
      rw [hpattern] at hcheck
      obtain ⟨branches, hread⟩ := branches_of_checkRegex hcheck
      obtain ⟨parts, others, rfl, -⟩ := Pattern.readBranches?_escape "" hread
      rw [mergePathFrom_pattern hcount hc hpattern, Pattern.confines_escape_iff hread]
      intro b hb word hword
      by_contra hout
      exact hstays ⟨c, hc, pattern, hpattern, _, others, hread, b, hb, word, hword, hout⟩
    · have hnone : ∀ c ∈ conditions, c.pathRegex = none := by
        intro c hc
        cases hpattern : c.pathRegex with
        | none => rfl
        | some pattern => exact absurd ⟨c, hc, pattern, hpattern⟩ hpatterns
      obtain ⟨start, hstart, hle⟩ := @mergePathFrom_prefixes merged.toList _ hnone
      rw [hstart]
      intro path hpath
      exact hle.trans hpath

/-! ### A pattern with two alternatives -/

/-- No sets with names, and no letters with several cases. -/
def Pattern.Meaning.exact : Pattern.Meaning where
  member _ _ := False
  variant c d := c = d

/-- The condition for the paths behind `/api`. -/
def apiCondition : Condition where
  pathPrefix := some "/api"
  pathRegex := none
  header := none

/-- A condition of a delegate with the pattern `/a|/b`, which has two alternatives. -/
def alternativesCondition : Condition where
  pathPrefix := none
  pathRegex := some "/a|/b"
  header := none

theorem alternatives_confines_iff :
    (mergePath [apiCondition] = .startsWith "/api" ∧
      checkConditions [alternativesCondition] = .ok ()) ∧
    (Confines .exact (dropEndSlashes "/api".toList)
        (mergePath ([apiCondition] ++ [alternativesCondition])) ↔
      ¬ Escapes .exact (dropEndSlashes "/api".toList) [alternativesCondition]) := by
  have inherits : mergePath [apiCondition] = .startsWith "/api" := by rfl
  have checked : checkConditions [alternativesCondition] = .ok () := by rfl
  exact ⟨⟨inherits, checked⟩, confines_mergePath_iff .exact inherits checked⟩

/-- Behind `/api` the pattern `/a|/b` matches the path `/b` as well. -/
theorem alternatives_not_confined :
    ¬ ∀ (m : Pattern.Meaning) (inherited conditions : List Condition) (merged : String),
      mergePath inherited = .startsWith merged → checkConditions conditions = .ok () →
        Confines m (dropEndSlashes merged.toList) (mergePath (inherited ++ conditions)) := by
  intro hall
  have hconfines := hall .exact [apiCondition] [alternativesCondition] "/api" rfl rfl
  have hread : Pattern.read? "/api/a|/b" = some (.alternation
      [.concat (Pattern.literal "/api/a".toList), .concat (Pattern.literal "/b".toList)]) := by rfl
  have hother : Pattern.Expr.SpansAll .exact "/b".toList (Pattern.literal "/b".toList) 0 2 :=
    Pattern.Expr.spansAll_literal.mpr ⟨List.prefix_refl _, rfl⟩
  have hpath := hconfines "/b" ⟨_, hread, .inr (.inl hother)⟩
  exact absurd hpath (by decide)

end GatewayCompiler
