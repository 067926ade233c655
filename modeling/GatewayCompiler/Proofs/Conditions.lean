import GatewayCompiler.Graph.Conditions
import Mathlib.Data.List.Pairwise

/-!
# Which conditions are accepted

The conditions of a route are checked in two loops.  The first one counts the tests of the path and
stops at the first malformed one.  The second one remembers the first value that each header has to
be equal to, and stops where another value is asked for.

## Main definitions

* `PathsInOrder` — the path is tested once at most, by a text with a slash in front or by a pattern
  that the engine accepts.
* `HeadersAgree` — no header has to be equal to two values.

## Main statements

* `checkPaths_eq_ok_iff`, `checkHeaders_eq_ok_iff` — what each of the loops accepts.
* `checkConditions_outcome` — what is accepted, and which errors are reported first.
-/

namespace GatewayCompiler

variable {engine : Pattern.Engine}

/-- Checks one after the other find nothing if and only if none of them does. -/
theorem forM_eq_ok_iff {ε α : Type} {check : α → Except ε Unit} {xs : List α} :
    xs.forM check = .ok () ↔ ∀ x ∈ xs, check x = .ok () := by
  induction xs with
  | nil => exact iff_of_true rfl nofun
  | cons x rest ih =>
    rw [List.forall_mem_cons, ← ih, List.forM]
    cases hx : check x with
    | ok _ => exact ⟨fun h => ⟨rfl, h⟩, fun h => h.2⟩
    | error e => exact iff_of_false nofun fun h => nomatch h.1

/-- An error of checks one after the other is an error of one of them. -/
theorem exists_of_forM_eq_error {ε α : Type} {check : α → Except ε Unit} {xs : List α} {e : ε}
    (h : xs.forM check = .error e) : ∃ x ∈ xs, check x = .error e := by
  induction xs with
  | nil => cases h
  | cons x rest ih =>
    rw [List.forM] at h
    cases hx : check x with
    | error e' =>
      rw [hx] at h
      cases h
      exact ⟨x, List.mem_cons_self, hx⟩
    | ok _ =>
      rw [hx] at h
      obtain ⟨y, hy, herror⟩ := ih h
      exact ⟨y, List.mem_cons_of_mem x hy, herror⟩

/-! ### Paths -/

/-- `e.OfPath` says that a test of the path is reported with `e`, and not a test of a header. -/
def ConditionError.OfPath : ConditionError → Prop
  | .noSlash _ | .badRegex _ | .severalPaths => True
  | .conflictingHeader _ => False

/-- `PathsInOrder conditions` says that the path is tested once at most, a beginning has its slash,
and a pattern is one that the engine accepts. -/
structure PathsInOrder [Pattern.Engine] (conditions : List Condition) : Prop where
  /-- Beginnings and patterns are counted together. -/
  once : conditions.countP (fun c => c.pathPrefix.isSome)
    + conditions.countP (fun c => c.pathRegex.isSome) ≤ 1
  /-- A beginning has a slash in front. -/
  slash : ∀ c ∈ conditions, ∀ text, c.pathPrefix = some text → text.toList.head? = some '/'
  /-- A pattern is one that the engine accepts. -/
  wellFormed : ∀ c ∈ conditions, ∀ pattern, c.pathRegex = some pattern → Pattern.accepts pattern

theorem checkPrefix_eq_ok_iff {text? : Option String} : checkPrefix text? = .ok () ↔
    ∀ text, text? = some text → text.toList.head? = some '/' := by
  cases text? with
  | none => exact iff_of_true rfl nofun
  | some text => simp [checkPrefix]

theorem checkRegex_eq_ok_iff {pattern? : Option String} : checkRegex pattern? = .ok () ↔
    ∀ pattern, pattern? = some pattern → Pattern.accepts pattern := by
  cases pattern? with
  | none => exact iff_of_true rfl nofun
  | some pattern => simp [checkRegex]

theorem checkPrefix_ofPath {text? : Option String} {e : ConditionError}
    (h : checkPrefix text? = .error e) : e.OfPath := by
  cases text? with
  | none => cases h
  | some text =>
    simp only [checkPrefix] at h
    split at h <;> cases h
    trivial

theorem checkRegex_ofPath {pattern? : Option String} {e : ConditionError}
    (h : checkRegex pattern? = .error e) : e.OfPath := by
  cases pattern? with
  | none => cases h
  | some pattern =>
    simp only [checkRegex] at h
    split at h <;> cases h
    trivial

/-- The tests of the path are the beginnings and the patterns, even those of one condition:
`pathCount` counts such a condition twice. -/
theorem pathCount_eq (conditions : List Condition) : pathCount conditions =
    conditions.countP (fun c => c.pathPrefix.isSome)
      + conditions.countP (fun c => c.pathRegex.isSome) := by
  induction conditions with
  | nil => rfl
  | cons c rest ih =>
    have hcons : pathCount (c :: rest)
        = c.pathPrefix.toList.length + c.pathRegex.toList.length + pathCount rest := by
      simp [pathCount, Nat.add_assoc]
    rw [hcons, ih, List.countP_cons, List.countP_cons]
    cases c.pathPrefix <;> cases c.pathRegex <;> simp <;> omega

/-- The loop over the paths, `checkPaths`, accepts what is in order and nothing else. -/
theorem checkPaths_eq_ok_iff {conditions : List Condition} :
    checkPaths conditions = .ok () ↔ PathsInOrder conditions := by
  -- the loop passes exactly when each condition passes both checks; the count is looked at
  -- afterwards
  have heach : (conditions.forM fun c => do
        checkPrefix c.pathPrefix
        checkRegex c.pathRegex) = .ok () ↔
      ∀ c ∈ conditions, checkPrefix c.pathPrefix = .ok () ∧ checkRegex c.pathRegex = .ok () := by
    rw [forM_eq_ok_iff]
    refine forall₂_congr fun c _ => ?_
    cases hfirst : checkPrefix c.pathPrefix with
    | error e => exact iff_of_false nofun fun h => nomatch h.1
    | ok _ => exact (and_iff_right rfl).symm
  have hall : checkPaths conditions = .ok () ↔
      (∀ c ∈ conditions, checkPrefix c.pathPrefix = .ok () ∧ checkRegex c.pathRegex = .ok ()) ∧
        pathCount conditions ≤ 1 := by
    rw [← heach, checkPaths]
    cases conditions.forM fun c => do
        checkPrefix c.pathPrefix
        checkRegex c.pathRegex with
    | error e => exact iff_of_false nofun fun h => nomatch h.1
    | ok _ =>
      change (if 1 < pathCount conditions then _ else _) = Except.ok () ↔ _
      rw [and_iff_right rfl]
      split
      · next hmany => exact iff_of_false nofun (by omega)
      · next hfew => exact iff_of_true rfl (by omega)
  rw [hall, pathCount_eq]
  constructor
  · rintro ⟨hchecks, honce⟩
    exact ⟨honce, fun c hc => checkPrefix_eq_ok_iff.mp (hchecks c hc).1,
      fun c hc => checkRegex_eq_ok_iff.mp (hchecks c hc).2⟩
  · rintro ⟨honce, hslash, hpattern⟩
    exact ⟨fun c hc => ⟨checkPrefix_eq_ok_iff.mpr (hslash c hc),
      checkRegex_eq_ok_iff.mpr (hpattern c hc)⟩, honce⟩

theorem checkPaths_ofPath {conditions : List Condition} {e : ConditionError}
    (h : checkPaths conditions = .error e) : e.OfPath := by
  rw [checkPaths] at h
  cases hloop : (conditions.forM fun c => do
      checkPrefix c.pathPrefix
      checkRegex c.pathRegex) with
  | error e' =>
    rw [hloop] at h
    cases h
    -- the error is that of some condition, and both checks of a condition give path errors only
    obtain ⟨c, -, hc⟩ := exists_of_forM_eq_error hloop
    cases hfirst : checkPrefix c.pathPrefix with
    | error e'' =>
      rw [hfirst] at hc
      cases hc
      exact checkPrefix_ofPath hfirst
    | ok _ =>
      rw [hfirst] at hc
      exact checkRegex_ofPath hc
  | ok _ =>
    rw [hloop] at h
    change (if 1 < pathCount conditions then _ else _) = Except.error e at h
    split at h <;> cases h
    trivial

/-! ### Headers -/

/-- `HeadersAgree conditions` says that no header has to be equal to two values.  Names of headers
that differ in the case of ASCII letters are one name. -/
def HeadersAgree (conditions : List Condition) : Prop :=
  ∀ c ∈ conditions, ∀ d ∈ conditions, ∀ h k, c.header = some h → d.header = some k →
    h.name.toLower = k.name.toLower → ∀ v w, h.exact = some v → k.exact = some w → v = w

/-- The `exactValues` that the loop goes through are those of the header tests for equality. -/
theorem mem_exactValues {conditions : List Condition} {name key value : String} :
    (name, key, value) ∈ exactValues conditions ↔ ∃ c ∈ conditions, ∃ h, c.header = some h ∧
      h.exact = some value ∧ h.name = name ∧ name.toLower = key := by
  unfold exactValues
  rw [List.mem_filterMap]
  refine exists_congr fun c => and_congr_right fun _ => ?_
  cases c.header with
  | none => simp
  | some h =>
    cases hexact : h.exact with
    | none => simp [hexact]
    | some v =>
      simp only [hexact, Option.bind_eq_bind, Option.bind_some, Option.pure_def, Option.some.injEq,
        Prod.mk.injEq, exists_eq_left']
      constructor
      · rintro ⟨rfl, rfl, rfl⟩
        exact ⟨rfl, rfl, rfl⟩
      · rintro ⟨rfl, rfl, rfl⟩
        exact ⟨rfl, rfl, rfl⟩

/-- `ExactAgree seen values` says that the values of one name agree with each other and with those
that are remembered in `seen`. -/
structure ExactAgree (seen : List (String × String)) (values : List (String × String × String)) :
    Prop where
  /-- What is remembered is asked for again. -/
  remembered : ∀ e ∈ values, ∀ first, seen.lookup e.2.1 = some first → first = e.2.2
  /-- Any two of them agree. -/
  pairwise : values.Pairwise fun a b => a.2.1 = b.2.1 → a.2.2 = b.2.2

/-- A value whose name is remembered already can be left out, if it is the `first` one. -/
theorem ExactAgree.cons_of_lookup {seen : List (String × String)} {name key value first : String}
    {rest : List (String × String × String)} (hfirst : seen.lookup key = some first) :
    ExactAgree seen ((name, key, value) :: rest) ↔ first = value ∧ ExactAgree seen rest := by
  constructor
  · intro h
    exact ⟨h.remembered _ List.mem_cons_self first hfirst,
      fun e he => h.remembered e (List.mem_cons_of_mem _ he), (List.pairwise_cons.mp h.pairwise).2⟩
  · rintro ⟨rfl, hremembered, hpairwise⟩
    refine ⟨List.forall_mem_cons.mpr ⟨?_, hremembered⟩, List.pairwise_cons.mpr ⟨?_, hpairwise⟩⟩
    · intro v hv
      exact Option.some.inj (hv.symm.trans hfirst)
    · -- later values of the name agree with this one as it is the one that is remembered
      intro e he hkey
      exact hremembered e he first (by rw [← hkey]; exact hfirst)

/-- A value under a new name is remembered, and those behind it are compared with it. -/
theorem ExactAgree.cons_of_lookup_none {seen : List (String × String)} {name key value : String}
    {rest : List (String × String × String)} (hnew : seen.lookup key = none) :
    ExactAgree seen ((name, key, value) :: rest) ↔ ExactAgree ((key, value) :: seen) rest := by
  -- remembering a new name changes the lookup of that name and of no other
  have hlookup : ∀ other, ((key, value) :: seen).lookup other =
      if other = key then some value else seen.lookup other := by
    intro other
    rw [List.lookup_cons]
    by_cases hother : other = key
    · simp [hother]
    · rw [if_neg hother, beq_eq_false_iff_ne.mpr hother]
  constructor
  · intro h
    obtain ⟨hhead, htail⟩ := List.pairwise_cons.mp h.pairwise
    refine ⟨fun e he first hfirst => ?_, htail⟩
    rw [hlookup] at hfirst
    split at hfirst
    · next heq =>
      cases hfirst
      exact hhead e he heq.symm
    · exact h.remembered e (List.mem_cons_of_mem _ he) first hfirst
  · rintro ⟨hremembered, hpairwise⟩
    refine ⟨List.forall_mem_cons.mpr ⟨?_, ?_⟩, List.pairwise_cons.mpr ⟨?_, hpairwise⟩⟩
    · rw [hnew]
      nofun
    · intro e he first hfirst
      refine hremembered e he first ?_
      rw [hlookup, if_neg, hfirst]
      rintro rfl
      rw [hnew] at hfirst
      cases hfirst
    · intro e he hkey
      exact hremembered e he value (by rw [hlookup, if_pos hkey.symm])

/-- The loop `checkExact` accepts values that agree, and among those of a name it only has to
remember the first. -/
theorem checkExact_eq_ok_iff {seen : List (String × String)}
    {values : List (String × String × String)} :
    checkExact seen values = .ok () ↔ ExactAgree seen values := by
  induction values generalizing seen with
  | nil => exact iff_of_true rfl ⟨nofun, List.Pairwise.nil⟩
  | cons entry rest ih =>
    obtain ⟨name, key, value⟩ := entry
    -- a name seen before must repeat its value, a new one joins what the rest is compared with
    cases hlookup : seen.lookup key with
    | none =>
      rw [ExactAgree.cons_of_lookup_none hlookup, ← ih, checkExact, hlookup]
    | some first =>
      rw [ExactAgree.cons_of_lookup hlookup, ← ih, checkExact, hlookup]
      by_cases hfirst : first = value
      · simp [hfirst]
      · simp [hfirst]

theorem exists_of_checkExact_eq_error {seen : List (String × String)}
    {values : List (String × String × String)} {e : ConditionError}
    (h : checkExact seen values = .error e) : ∃ name, e = .conflictingHeader name := by
  induction values generalizing seen with
  | nil => cases h
  | cons entry rest ih =>
    obtain ⟨name, key, value⟩ := entry
    rw [checkExact] at h
    split at h
    · split at h
      · exact ih h
      · cases h
        exact ⟨name, rfl⟩
    · exact ih h

/-- The loop over the headers, `checkHeaders`, accepts what agrees. -/
theorem checkHeaders_eq_ok_iff {conditions : List Condition} :
    checkHeaders conditions = .ok () ↔ HeadersAgree conditions := by
  -- two values of one name agree in either order, and each of them with itself
  have hpairs : (exactValues conditions).Pairwise (fun a b => a.2.1 = b.2.1 → a.2.2 = b.2.2) ↔
      ∀ a ∈ exactValues conditions, ∀ b ∈ exactValues conditions,
        a.2.1 = b.2.1 → a.2.2 = b.2.2 := by
    constructor
    · have : Std.Symm fun a b : String × String × String => a.2.1 = b.2.1 → a.2.2 = b.2.2 :=
        ⟨fun _ _ hab hba => (hab hba.symm).symm⟩
      intro h a ha b hb
      exact h.forall_of_forall (fun _ _ _ => rfl) ha hb
    · exact fun h => List.pairwise_of_forall_mem_list h
  rw [checkHeaders, checkExact_eq_ok_iff]
  constructor
  · rintro ⟨-, hagree⟩ c hc d hd h k hh hk hname v w hv hw
    exact hpairs.mp hagree _ (mem_exactValues.mpr ⟨c, hc, h, hh, hv, rfl, rfl⟩)
      _ (mem_exactValues.mpr ⟨d, hd, k, hk, hw, rfl, rfl⟩) hname
  · intro hagree
    refine ⟨nofun, hpairs.mpr ?_⟩
    rintro ⟨_, _, v⟩ ha ⟨_, _, w⟩ hb hkey
    obtain ⟨c, hc, h, hh, hv, rfl, rfl⟩ := mem_exactValues.mp ha
    obtain ⟨d, hd, k, hk, hw, rfl, rfl⟩ := mem_exactValues.mp hb
    exact hagree c hc d hd h k hh hk hkey v w hv hw

/-! ### Both -/

/-- **What is wrong with conditions.** With any engine for patterns, `conditions` are accepted if and
only if the path is tested once at most and well, and no header has to be equal to two values.
Otherwise the error is one of the path unless the paths are in order. -/
theorem checkConditions_outcome (conditions : List Condition) :
    (checkConditions conditions = .ok () ↔ PathsInOrder conditions ∧ HeadersAgree conditions) ∧
    ((∃ e : ConditionError, e.OfPath ∧ checkConditions conditions = .error e) ↔
      ¬ PathsInOrder conditions) ∧
    ((∃ name, checkConditions conditions = .error (.conflictingHeader name)) ↔
      PathsInOrder conditions ∧ ¬ HeadersAgree conditions) := by
  rw [← checkPaths_eq_ok_iff, ← checkHeaders_eq_ok_iff, checkConditions]
  cases hpaths : checkPaths conditions with
  | error e =>
    -- a refused path ends the check, so no header problem is reported beside it
    have hpath := checkPaths_ofPath hpaths
    refine ⟨iff_of_false nofun nofun, iff_of_true ⟨e, hpath, rfl⟩ nofun, iff_of_false ?_ nofun⟩
    rintro ⟨name, hname⟩
    cases hname
    exact hpath
  | ok _ =>
    change (checkHeaders conditions = .ok () ↔ _) ∧
      ((∃ e : ConditionError, e.OfPath ∧ checkHeaders conditions = .error e) ↔ _) ∧
      ((∃ name, checkHeaders conditions = .error (.conflictingHeader name)) ↔ _)
    cases hheaders : checkHeaders conditions with
    | error e =>
      obtain ⟨name, rfl⟩ := exists_of_checkExact_eq_error hheaders
      refine ⟨iff_of_false nofun nofun, iff_of_false ?_ (not_not.mpr rfl),
        iff_of_true ⟨name, rfl⟩ ⟨rfl, nofun⟩⟩
      rintro ⟨e, hpath, he⟩
      cases he
      exact hpath
    | ok _ =>
      exact ⟨iff_of_true rfl ⟨rfl, rfl⟩, iff_of_false nofun (not_not.mpr rfl),
        iff_of_false nofun fun h => h.2 rfl⟩

end GatewayCompiler
