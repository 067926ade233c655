import GatewayCompiler.Pattern.Escape
import GatewayCompiler.Proofs.Pattern.Matching

/-!
# Literal texts in front of patterns

When the pattern of a text alone is written in front of another pattern, its characters become the
first parts of the first alternative.  The other alternatives do not change: the bar between two
alternatives ends the literal text as well.

## Main definitions

* `Level.Led`, `StackLed`, `Reading.Led` — one reading has parts in front that the other one has not.

## Main statements

* `Reading.Led.put`, `Reading.Led.run` — an item and a whole reading keep the parts in front.
* `run_escape` — how the pattern of a text alone is read.
* `readBranches?_escape` — the alternatives behind a literal text.
-/

namespace GatewayCompiler.Pattern

variable {lead : List Expr}

/-! ### Parts in front -/

/-- `Led lead l l'` relates two readings of a group, the second one with the parts `lead` at the
start of its first alternative. -/
inductive Level.Led (lead : List Expr) : Level → Level → Prop
  /-- The first alternative is being read. -/
  | first (parts : List Expr) : Led lead ⟨[], parts⟩ ⟨[], parts ++ lead.reverse⟩
  /-- The first alternative is complete. -/
  | later (first others parts : List Expr) :
    Led lead ⟨others ++ [.ofParts first], parts⟩ ⟨others ++ [.ofParts (lead ++ first)], parts⟩

namespace Level.Led

variable {l l' : Level}

theorem add (part : Expr) (h : l.Led lead l') : (l.add part).Led lead (l'.add part) := by
  cases h with
  | first parts => exact .first (part :: parts)
  | later first others parts => exact .later first others (part :: parts)

theorem nextBranch (h : l.Led lead l') : l.nextBranch.Led lead l'.nextBranch := by
  cases h with
  | first parts =>
    have hreverse : (parts ++ lead.reverse).reverse = lead ++ parts.reverse := by
      rw [List.reverse_append, List.reverse_reverse]
    unfold Level.nextBranch
    rw [hreverse]
    exact .later parts.reverse [] []
  | later first others parts => exact .later first (.ofParts parts.reverse :: others) []

/-- What is repeated is never one of the parts in front: the second reading repeats the same
part. -/
theorem repeatLast {least : Nat} {most : Option Nat} {k : Level} (h : l.Led lead l')
    (hrepeat : l.repeatLast least most = some k) :
    ∃ k', l'.repeatLast least most = some k' ∧ k.Led lead k' := by
  cases h with
  -- what is repeated is the last part, which the lead-in lies below
  | first parts =>
    unfold Level.repeatLast at hrepeat ⊢
    split at hrepeat
    · cases hrepeat
    · cases hrepeat
    · rename_i part rest hflags hparts
      cases hrepeat
      change parts = part :: rest at hparts
      subst hparts
      exact ⟨⟨[], .repeated part least most :: (rest ++ lead.reverse)⟩, by simp, .first _⟩
  | later first others parts =>
    unfold Level.repeatLast at hrepeat ⊢
    split at hrepeat
    · cases hrepeat
    · cases hrepeat
    · rename_i part rest hflags hparts
      cases hrepeat
      change parts = part :: rest at hparts
      subst hparts
      exact ⟨⟨_, .repeated part least most :: rest⟩, by simp, .later _ _ _⟩

/-- Only the first alternative differs, by the parts of `lead`. -/
theorem allBranches (h : l.Led lead l') :
    ∃ first others, l.allBranches = .ofParts first :: others ∧
      l'.allBranches = .ofParts (lead ++ first) :: others := by
  unfold Level.allBranches Level.nextBranch
  cases h with
  | first parts =>
    refine ⟨parts.reverse, [], rfl, ?_⟩
    simp
  | later first others parts =>
    refine ⟨first, others.reverse ++ [.ofParts parts.reverse], ?_, ?_⟩
    · simp
    · simp

end Level.Led

/-- `StackLed lead l groups l' groups'` relates two stacks of open groups, the second one with parts
in front of the whole pattern. -/
inductive StackLed (lead : List Expr) : Level → List OpenGroup → Level → List OpenGroup → Prop
  /-- No group is open. -/
  | bottom {l l' : Level} (h : l.Led lead l') : StackLed lead l [] l' []
  /-- The innermost group is the same. -/
  | above {l outer : Level} {g : OpenGroup} {groups groups' : List OpenGroup}
    (h : StackLed lead g.outer groups outer groups') :
    StackLed lead l (g :: groups) l ({ g with outer } :: groups')

/-- What keeps the parts in front of a group keeps those of the whole pattern: `f` changes the
innermost group only. -/
theorem StackLed.map {l l' : Level} {groups groups' : List OpenGroup} {f : Level → Level}
    (hf : ∀ {l l' : Level}, l.Led lead l' → (f l).Led lead (f l'))
    (h : StackLed lead l groups l' groups') : StackLed lead (f l) groups (f l') groups' := by
  cases h with
  | bottom h => exact .bottom (hf h)
  | above h => exact .above h

theorem StackLed.repeatLast {l l' k : Level} {groups groups' : List OpenGroup} {least : Nat}
    {most : Option Nat} (h : StackLed lead l groups l' groups')
    (hrepeat : l.repeatLast least most = some k) :
    ∃ k', l'.repeatLast least most = some k' ∧ StackLed lead k groups k' groups' := by
  cases h with
  | bottom h =>
    obtain ⟨k', hk', hled⟩ := h.repeatLast hrepeat
    exact ⟨k', hk', .bottom hled⟩
  | above h => exact ⟨k, hrepeat, .above h⟩

namespace Reading

/-- `Led lead r r'` relates two readings, the second one with parts in front of the whole pattern.
They differ in nothing else. -/
inductive Led (lead : List Expr) : Reading → Reading → Prop
  /-- They differ in the stack only. -/
  | mk {rest : List Char} {flags : Flags} {l l' : Level} {groups groups' : List OpenGroup}
    {names : List (List Char)} (h : StackLed lead l groups l' groups') :
    Led lead ⟨rest, flags, l, groups, names⟩ ⟨rest, flags, l', groups', names⟩

variable {r r' s : Reading}

/-- An item that can be read can be read with parts in front as well, and the readings stay
related. -/
theorem Led.put {rest : List Char} {item : Item} (h : Led lead r r')
    (hput : r.put rest item = some s) : ∃ s', r'.put rest item = some s' ∧ Led lead s s' := by
  obtain @⟨_, outerFlags, l, l', groups, groups', names, hstack⟩ := h
  -- by the item: only an opening puts a level on top, and only a closing takes one off
  cases item with
  | part part =>
    cases hput
    exact ⟨_, rfl, ⟨hstack.map (Level.Led.add part)⟩⟩
  | bar =>
    cases hput
    exact ⟨_, rfl, ⟨hstack.map Level.Led.nextBranch⟩⟩
  | setting flags =>
    cases hput
    exact ⟨_, rfl, ⟨hstack.map (Level.Led.add .flags)⟩⟩
  | repetition least most =>
    obtain ⟨k, hrepeat, rfl⟩ := Option.map_eq_some_iff.mp hput
    obtain ⟨k', hrepeat', hled⟩ := hstack.repeatLast hrepeat
    exact ⟨_, Option.map_eq_some_iff.mpr ⟨k', hrepeat', rfl⟩, ⟨hled⟩⟩
  | opening capturing name flags =>
    by_cases hname : name.any (· ∈ names) = true
    · rw [Reading.put, if_pos hname] at hput
      cases hput
    · rw [Reading.put, if_neg hname] at hput
      cases hput
      exact ⟨_, if_neg hname, ⟨.above hstack⟩⟩
  | closing =>
    cases hstack with
    | bottom => cases hput
    | above h =>
      cases hput
      exact ⟨_, rfl, ⟨h.map (Level.Led.add _)⟩⟩

theorem Led.step {cs : List Char} (h : Led lead r r') (hstep : r.step cs = some s) :
    ∃ s', r'.step cs = some s' ∧ Led lead s s' := by
  have hflags : r'.flags = r.flags := by
    cases h
    rfl
  unfold Reading.step at hstep ⊢
  rw [hflags]
  cases hitem : readItem r.flags cs with
  | none =>
    rw [hitem] at hstep
    cases hstep
  | some item =>
    rw [hitem] at hstep
    exact h.put hstep

/-! ### Runs -/

theorem run_nil {steps : Nat} (h : r.flags.skip r.rest = []) : run steps r = some r := by
  unfold run
  rw [h]

theorem run_cons {steps : Nat} {c : Char} {cs : List Char} (h : r.flags.skip r.rest = c :: cs) :
    run (steps + 1) r = (r.step (c :: cs)).bind (run steps) := by
  rw [run.eq_def]
  simp only [h]
  cases r.step (c :: cs) <;> rfl

theorem run_zero {c : Char} {cs : List Char} (h : r.flags.skip r.rest = c :: cs) :
    run 0 r = none := by
  unfold run
  rw [h]

/-- With more steps the reading is the same. -/
theorem run_of_le {steps more : Nat} (hrun : run steps r = some s) (hle : steps ≤ more) :
    run more r = some s := by
  -- the steps to spare are not used once the text is read
  induction steps generalizing r more with
  | zero =>
    cases hrest : r.flags.skip r.rest with
    | nil =>
      rw [run_nil hrest] at hrun ⊢
      exact hrun
    | cons c cs =>
      rw [run_zero hrest] at hrun
      cases hrun
  | succ steps ih =>
    cases hrest : r.flags.skip r.rest with
    | nil =>
      rw [run_nil hrest] at hrun ⊢
      exact hrun
    | cons c cs =>
      obtain ⟨more, rfl⟩ : ∃ k, more = k + 1 := ⟨more - 1, by omega⟩
      rw [run_cons hrest] at hrun ⊢
      obtain ⟨r', hstep, hrun⟩ := Option.bind_eq_some_iff.mp hrun
      rw [hstep]
      exact ih hrun (by omega)

/-- A whole reading keeps the parts in front. -/
theorem Led.run {steps : Nat} (h : Led lead r r') (hrun : run steps r = some s) :
    ∃ s', Reading.run steps r' = some s' ∧ Led lead s s' := by
  -- both readings have the same characters ahead at every step
  have hrest {r r' : Reading} (h : Led lead r r') :
      r'.flags.skip r'.rest = r.flags.skip r.rest := by
    cases h
    rfl
  induction steps generalizing r r' with
  | zero =>
    cases hcs : r.flags.skip r.rest with
    | nil =>
      rw [run_nil hcs] at hrun
      cases hrun
      exact ⟨r', run_nil ((hrest h).trans hcs), h⟩
    | cons c cs =>
      rw [run_zero hcs] at hrun
      cases hrun
  | succ steps ih =>
    cases hcs : r.flags.skip r.rest with
    | nil =>
      rw [run_nil hcs] at hrun
      cases hrun
      exact ⟨r', run_nil ((hrest h).trans hcs), h⟩
    | cons c cs =>
      rw [run_cons hcs] at hrun
      obtain ⟨t, hstep, hrun⟩ := Option.bind_eq_some_iff.mp hrun
      obtain ⟨t', hstep', hled⟩ := h.step hstep
      rw [run_cons ((hrest h).trans hcs), hstep']
      exact ih hled hrun

end Reading

/-! ### Literal texts -/

/-- A character is read back from `escapeChar`, the pattern for itself. -/
theorem readItem_escapeChar (c : Char) (rest : List Char) :
    readItem {} (escapeChar c ++ rest) = some (.part (.char c false), rest) := by
  unfold escapeChar
  split
  · rename_i hmeta
    have hmem : c ∈ metaChars := by simpa [isMeta] using hmeta
    simp only [metaChars, List.mem_cons, List.not_mem_nil, or_false] at hmem
    rcases hmem with rfl | rfl | rfl | rfl | rfl | rfl | rfl | rfl | rfl | rfl | rfl | rfl | rfl |
      rfl | rfl | rfl | rfl | rfl <;> rfl
  · rename_i hmeta
    -- every other item begins with a character that has a meaning of its own
    unfold readItem
    split <;> simp_all [isMeta, metaChars]

/-- The pattern of a text alone is not shorter than the text, so that there are steps enough to read
it. -/
theorem length_le_flatMap_escapeChar (text : List Char) :
    text.length ≤ (text.flatMap escapeChar).length := by
  induction text with
  | nil => exact Nat.le_refl _
  | cons c text ih =>
    have hpos : 1 ≤ (escapeChar c).length := by
      unfold escapeChar
      split <;> simp
    rw [List.flatMap_cons, List.length_append, List.length_cons]
    omega

/-- The pattern of a text alone adds its characters one by one.  The induction is on the text, with
the parts that were read before. -/
theorem run_escape (text rest : List Char) (parts : List Expr) (steps : Nat) :
    Reading.run (text.length + steps)
        { rest := text.flatMap escapeChar ++ rest, level := ⟨[], parts⟩ } =
      Reading.run steps { rest, level := ⟨[], (literal text).reverse ++ parts⟩ } := by
  -- each character is one item, written with a backslash if it has a meaning
  induction text generalizing parts with
  | nil =>
    rw [List.length_nil, Nat.zero_add]
    rfl
  | cons c text ih =>
    have hskip : ∃ d ds, escapeChar c ++ (text.flatMap escapeChar ++ rest) = d :: ds := by
      unfold escapeChar
      split <;> exact ⟨_, _, rfl⟩
    obtain ⟨d, ds, hskip⟩ := hskip
    have hitem := readItem_escapeChar c (text.flatMap escapeChar ++ rest)
    rw [List.flatMap_cons, List.append_assoc, List.length_cons, Nat.add_right_comm]
    rw [hskip] at hitem ⊢
    have hrest : Flags.skip {} (d :: ds) = d :: ds := rfl
    rw [Reading.run_cons hrest]
    have hstep : Reading.step { rest := d :: ds, level := ⟨[], parts⟩ } (d :: ds) =
        some { rest := text.flatMap escapeChar ++ rest, level := ⟨[], .char c false :: parts⟩ } := by
      unfold Reading.step
      simp only
      rw [hitem]
      rfl
    rw [hstep, Option.bind_some, ih]
    simp [literal]

/-- Behind a literal text only the first alternative differs: `first` is led in by the characters of
the text. -/
theorem readBranches?_escape {pattern : String} {branches : List Expr} (text : String)
    (h : readBranches? pattern = some branches) :
    ∃ first others, branches = .ofParts first :: others ∧
      readBranches? (escape text ++ pattern)
        = some (.ofParts (literal text.toList ++ first) :: others) := by
  unfold readBranches? at h ⊢
  simp only at h ⊢
  cases hrun : Reading.run pattern.toList.length { rest := pattern.toList } with
  | none =>
    rw [hrun] at h
    cases h
  | some r =>
    rw [hrun] at h
    -- the literal characters come first, then the other pattern is read behind them
    have hled : Reading.Led (literal text.toList) { rest := pattern.toList }
        { rest := pattern.toList, level := ⟨[], (literal text.toList).reverse⟩ } :=
      ⟨.bottom (.first [])⟩
    obtain ⟨r', hrun', hled⟩ := hled.run hrun
    have hescape := run_escape text.toList pattern.toList [] pattern.toList.length
    rw [List.append_nil, hrun'] at hescape
    have hchars : (escape text ++ pattern).toList =
        text.toList.flatMap escapeChar ++ pattern.toList := by
      rw [String.toList_append, escape, String.toList_ofList]
    have hlength : text.toList.length + pattern.toList.length ≤
        (escape text ++ pattern).toList.length := by
      rw [hchars, List.length_append]
      have := length_le_flatMap_escapeChar text.toList
      omega
    have hwhole := Reading.run_of_le hescape hlength
    rw [← hchars] at hwhole
    rw [hwhole]
    obtain @⟨_, _, l, l', groups, groups', _, hstack⟩ := hled
    cases hstack with
    | bottom hlevel =>
      obtain ⟨first, others, hbranches, hbranches'⟩ := hlevel.allBranches
      cases h
      exact ⟨first, others, hbranches, congrArg some hbranches'⟩
    | above => cases h

end GatewayCompiler.Pattern
