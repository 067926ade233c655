import GatewayCompiler.Policy.Duration
import Mathlib.Data.List.SplitBy
import Mathlib.Data.List.TakeWhile

/-!
# The grammar of durations

A duration falls into its longest runs of digits and points, which are numbers, and the longest runs
of other characters, which are units.  A text is read exactly if numbers and units take turns, a
number first and a unit last, and if the sum of them fits.  The scan takes one number with its unit
in each round, and as no round leaves the text as long as it was, it ends.

## Main definitions

* `runs` — the longest runs of a text.
* `IsNumber`, `units` — the numbers and units that there are.
* `Written`, `total` — a text of the grammar, and the sum of its parts.
* `Overflows` — a sum that does not fit.
* `Scan`, `Scan.Ends` — the scan round by round.

## Main statements

* `numberText?_eq_some_iff`, `unitNanos?_eq_some_iff` — what numbers and units are.
* `sumNanos?_eq_some_iff` — the texts that have a sum.
* `Scan.exists_ends` — the scan ends, and with that sum.
* `parseDuration_reads` — which texts are durations.
-/

namespace GatewayCompiler.Policy

open Decimal

variable {cs number unit rest : List Char} {parts : List (List Char × List Char)}

/-! ### Runs -/

/-- `runs cs` are the longest runs of characters of `cs` that all belong to numbers or that all do
not. -/
def runs (cs : List Char) : List (List Char) :=
  cs.splitBy fun a b => isNumberChar a == isNumberChar b

/-- A run ends where a character of the other kind follows; `kind` is that of the run. -/
theorem runs_append {run : List Char} {kind : Bool} (hne : run ≠ [])
    (hrun : ∀ c ∈ run, isNumberChar c = kind) (hrest : ∀ c ∈ rest.head?, isNumberChar c = !kind) :
    runs (run ++ rest) = run :: runs rest := by
  have hchain : run.IsChain fun a b => (isNumberChar a == isNumberChar b) = true := by
    refine (List.pairwise_iff_forall_sublist.mpr fun {a b} hab => ?_).isChain
    rw [hrun a (hab.subset (by simp)), hrun b (hab.subset (by simp))]
    exact beq_self_eq_true kind
  have happend : runs (run ++ rest) = runs run ++ runs rest := by
    refine List.splitBy_append fun x hx y hy => ?_
    rw [hrun x (List.mem_of_mem_getLast? hx), hrest y hy]
    cases kind <;> rfl
  rw [happend, runs, List.splitBy_of_isChain hne hchain]
  rfl

/-! ### Numbers -/

/-- `IsNumber run` says that `run` is a number: digits with at most one point, and at least one
digit. -/
structure IsNumber (run : List Char) : Prop where
  /-- There are digits and points only. -/
  chars : ∀ c ∈ run, isNumberChar c
  /-- There is a digit. -/
  digit : ∃ c ∈ run, c.isDigit
  /-- There is at most one point. -/
  point : run.count '.' ≤ 1

/-- `behindPoint number` are the digits behind the point of a number, none without a point. -/
def behindPoint (number : List Char) : List Char := (number.dropWhile (· ≠ '.')).drop 1

/-- `numberValue number` is the binary number nearest to a number. -/
def numberValue (number : List Char) : Binary64 :=
  .ofDecimal (digitsValue (number.filter Char.isDigit)) (behindPoint number).length

theorem isNumberChar_of_isDigit {c : Char} (h : c.isDigit) : isNumberChar c := by
  simp [isNumberChar, h]

theorem isDigit_of_ne_point {c : Char} (h : isNumberChar c) (hc : c ≠ '.') : c.isDigit := by
  simpa [isNumberChar, hc] using h

theorem ne_point_of_isDigit {c : Char} (h : c.isDigit) : c ≠ '.' := by
  rintro rfl
  exact absurd h (by decide)

/-- Characters of numbers are digits alone, or digits in front of a first point. -/
theorem digits_or_point (h : ∀ c ∈ number, isNumberChar c) :
    (∀ c ∈ number, c.isDigit) ∨
      ∃ whole part, number = whole ++ '.' :: part ∧ ∀ c ∈ whole, c.isDigit := by
  by_cases hpoint : '.' ∈ number
  · obtain ⟨whole, part, rfl, hwhole⟩ := List.eq_append_cons_of_mem hpoint
    refine .inr ⟨whole, part, rfl, fun c hc => ?_⟩
    exact isDigit_of_ne_point (h c (List.mem_append_left _ hc)) (ne_of_mem_of_not_mem hc hwhole)
  · exact .inl fun c hc => isDigit_of_ne_point (h c hc) (ne_of_mem_of_not_mem hc hpoint)

theorem count_point_of_digits (h : ∀ c ∈ number, c.isDigit) : number.count '.' = 0 :=
  List.count_eq_zero.mpr fun hpoint => ne_point_of_isDigit (h _ hpoint) rfl

theorem isNumber_iff_of_digits (h : ∀ c ∈ number, c.isDigit) : IsNumber number ↔ number ≠ [] := by
  constructor
  · intro hnumber
    obtain ⟨c, hc, -⟩ := hnumber.digit
    exact List.ne_nil_of_mem hc
  · intro hne
    obtain ⟨c, hc⟩ := List.exists_mem_of_ne_nil number hne
    exact ⟨fun c hc => isNumberChar_of_isDigit (h c hc), ⟨c, hc, h c hc⟩,
      (count_point_of_digits h).trans_le (Nat.zero_le 1)⟩

/-- Behind a first point there is no other one, so that what follows in `part` are digits. -/
theorem isNumber_iff_of_point {whole part : List Char} (hwhole : ∀ c ∈ whole, c.isDigit) :
    IsNumber (whole ++ '.' :: part) ↔ whole ++ part ≠ [] ∧ ∀ c ∈ part, c.isDigit := by
  constructor
  · intro h
    -- the point stands in the middle and is the only one, so what follows it has none
    have hpoint := h.point
    rw [List.count_append, List.count_cons_self, count_point_of_digits hwhole] at hpoint
    have hpart : '.' ∉ part := List.count_eq_zero.mp (by omega)
    obtain ⟨c, hc, hdigit⟩ := h.digit
    refine ⟨List.ne_nil_of_mem (a := c) ?_, fun c hc => ?_⟩
    · simpa [ne_point_of_isDigit hdigit] using hc
    · exact isDigit_of_ne_point (h.chars c (by simp [hc])) (ne_of_mem_of_not_mem hc hpart)
  · rintro ⟨hne, hpart⟩
    have hdigits : ∀ c ∈ whole ++ part, c.isDigit := by
      simpa [or_imp, forall_and] using ⟨hwhole, hpart⟩
    obtain ⟨c, hc⟩ := List.exists_mem_of_ne_nil _ hne
    refine ⟨fun d hd => ?_, ⟨c, ?_, hdigits c hc⟩, ?_⟩
    -- the characters are the point itself and digits on both sides
    · by_cases hpoint : d = '.'
      · subst hpoint
        decide
      · exact isNumberChar_of_isDigit (hdigits d (by simpa [hpoint] using hd))
    · rcases List.mem_append.mp hc with hc | hc <;> simp [hc]
    · rw [List.count_append, List.count_cons_self, count_point_of_digits hwhole,
        count_point_of_digits hpart]

/-- Digits alone are read as such, and something is read if there are any. -/
theorem numberText?_digits (h : ∀ c ∈ number, c.isDigit) :
    numberText? number = if number = [] then none else
      some (digitsValue (number.filter Char.isDigit), (behindPoint number).length) := by
  have htake : number.takeWhile Char.isDigit = number := List.takeWhile_eq_self_iff.mpr h
  have hdrop : number.dropWhile Char.isDigit = [] := List.dropWhile_eq_nil_iff.mpr h
  have hbehind : behindPoint number = [] := by
    rw [behindPoint, List.dropWhile_eq_nil_iff.mpr fun c hc => by
      simpa using ne_point_of_isDigit (h c hc)]
    rfl
  have hfilter : number.filter Char.isDigit = number := List.filter_eq_self.mpr h
  by_cases hnil : number = [] <;> simp [numberText?, htake, hdrop, hbehind, hfilter, hnil]

/-- So are digits in front of a point and what is behind it, if there is a digit. -/
theorem numberText?_point {whole part : List Char} (hwhole : ∀ c ∈ whole, c.isDigit) :
    numberText? (whole ++ '.' :: part) =
      if whole ++ part ≠ [] ∧ part.all Char.isDigit then
        some (digitsValue ((whole ++ '.' :: part).filter Char.isDigit),
          (behindPoint (whole ++ '.' :: part)).length)
      else none := by
  -- the scan stops at the point: the digits before it are all of `whole`
  have hpoint : ('.' : Char).isDigit = false := by decide
  have htake : (whole ++ '.' :: part).takeWhile Char.isDigit = whole := by
    rw [List.takeWhile_append_of_pos hwhole, List.takeWhile_cons_of_neg (by simp [hpoint]),
      List.append_nil]
  have hdrop : (whole ++ '.' :: part).dropWhile Char.isDigit = '.' :: part := by
    rw [List.dropWhile_append_of_pos hwhole, List.dropWhile_cons_of_neg (by simp [hpoint])]
  have hbehind : behindPoint (whole ++ '.' :: part) = part := by
    rw [behindPoint, List.dropWhile_append_of_pos fun c hc => by
      simpa using ne_point_of_isDigit (hwhole c hc)]
    simp
  simp only [numberText?, htake, hdrop, hbehind, List.drop_succ_cons, List.drop_zero]
  split
  · next h =>
    have hfilter : (whole ++ '.' :: part).filter Char.isDigit = whole ++ part := by
      rw [List.filter_append, List.filter_cons_of_neg (by simp [hpoint]),
        List.filter_eq_self.mpr hwhole, List.filter_eq_self.mpr (List.all_eq_true.mp h.2)]
    rw [hfilter]
  · rfl

/-- A run of digits and points is read exactly if it `IsNumber`, and then as its digits with the
number of those behind the point. -/
theorem numberText?_eq_some_iff (hchars : ∀ c ∈ number, isNumberChar c) {read : Nat × Nat} :
    numberText? number = some read ↔ IsNumber number ∧
      read = (digitsValue (number.filter Char.isDigit), (behindPoint number).length) := by
  rcases digits_or_point hchars with hdigits | ⟨whole, part, rfl, hwhole⟩
  · rw [numberText?_digits hdigits, isNumber_iff_of_digits hdigits]
    split
    · next hnil => simp only [hnil, ne_eq, not_true_eq_false, false_and, reduceCtorEq]
    · next hne => rw [Option.some.injEq, eq_comm, and_iff_right hne]
  · rw [numberText?_point hwhole, isNumber_iff_of_point hwhole, ← List.all_eq_true]
    split
    · next h => rw [Option.some.injEq, eq_comm, and_iff_right h]
    · next h => simp only [h, false_and, reduceCtorEq]

/-! ### Units -/

/-- The units with their nanoseconds; microseconds may be written with either micro sign. -/
def units : List (String × Nat) :=
  [("ns", 1), ("us", 1000), ("\u00b5s", 1000), ("\u03bcs", 1000), ("ms", 1000000),
    ("s", 1000000000), ("m", 60 * 1000000000), ("h", 3600 * 1000000000)]

theorem unitNanos?_eq_some_iff {text : String} {scale : Nat} :
    unitNanos? text = some scale ↔ (text, scale) ∈ units := by
  constructor
  · intro h
    unfold unitNanos? at h
    split_ifs at h <;> cases h <;> simp_all [units]
  · intro h
    have hall : ∀ p ∈ units, unitNanos? p.1 = some p.2 := by decide
    exact hall _ h

/-- No unit is empty, and none has a digit or a point. -/
theorem chars_of_mem_units : ∀ p ∈ units, p.1.toList ≠ [] ∧
    ∀ c ∈ p.1.toList, isNumberChar c = false := by
  have hall : units.all fun p => p.1.toList ≠ [] ∧ p.1.toList.all (! isNumberChar ·) := by decide
  simpa only [List.all_eq_true, decide_eq_true_iff, Bool.not_eq_true'] using hall

/-- `unitScale unit` are the nanoseconds of a unit. -/
def unitScale (unit : List Char) : Nat := (units.lookup (String.ofList unit)).getD 0

theorem unitScale_of_mem {scale : Nat} (h : (String.ofList unit, scale) ∈ units) :
    unitScale unit = scale := by
  have hall : ∀ p ∈ units, units.lookup p.1 = some p.2 := by decide
  rw [unitScale, hall _ h, Option.getD_some]

/-! ### Numbers and units in turn -/

/-- `IsPair pair` says that `pair` is a number with a unit behind it. -/
structure IsPair (pair : List Char × List Char) : Prop where
  /-- There is a number first. -/
  number : IsNumber pair.1
  /-- There is a unit behind it. -/
  unit : ∃ scale, (String.ofList pair.2, scale) ∈ units

/-- `pairNanos pair` are the nanoseconds of a number with a unit, rounded to a binary number. -/
def pairNanos (pair : List Char × List Char) : Binary64 :=
  (numberValue pair.1).scale (unitScale pair.2)

/-- `joined parts` is the text of the numbers and units `parts`, without anything between them. -/
def joined (parts : List (List Char × List Char)) : List Char := parts.flatMap fun p => p.1 ++ p.2

/-- `total parts` is the sum of numbers with units, from left to right.  Every partial sum is
rounded, so that the order matters. -/
def total (parts : List (List Char × List Char)) : Binary64 :=
  (parts.map pairNanos).foldl Binary64.add .zero

/-- `Written cs parts` says that the runs of the text `cs` are the numbers and units of `parts` in
turn. -/
structure Written (cs : List Char) (parts : List (List Char × List Char)) : Prop where
  /-- There is a number with a unit. -/
  ne_nil : parts ≠ []
  /-- The runs are these. -/
  runs_eq : runs cs = parts.flatMap fun p => [p.1, p.2]
  /-- They are numbers and units. -/
  pairs : ∀ p ∈ parts, IsPair p

theorem IsNumber.ne_nil (h : IsNumber number) : number ≠ [] := by
  obtain ⟨c, hc, -⟩ := h.digit
  exact List.ne_nil_of_mem hc

theorem IsPair.unit_chars {pair : List Char × List Char} (h : IsPair pair) :
    pair.2 ≠ [] ∧ ∀ c ∈ pair.2, isNumberChar c = false := by
  obtain ⟨scale, hmem⟩ := h.unit
  simpa using chars_of_mem_units _ hmem

/-- What stands in front of the first character of another kind, and what stands behind it. -/
theorem span_append {p : Char → Bool} {run : List Char} (hrun : ∀ c ∈ run, p c)
    (hrest : ∀ c ∈ rest.head?, p c = false) :
    (run ++ rest).takeWhile p = run ∧ (run ++ rest).dropWhile p = rest := by
  rw [List.takeWhile_append_of_pos hrun, List.dropWhile_append_of_pos hrun]
  cases rest with
  | nil => simp
  | cons c more => simp [hrest c rfl]

/-- A text of numbers and units begins with a number. -/
theorem isNumberChar_of_mem_head?_joined (h : ∀ p ∈ parts, IsPair p) :
    ∀ c ∈ (joined parts).head?, isNumberChar c := by
  cases parts with
  | nil => simp [joined]
  | cons p rest =>
    have hnumber := (h p List.mem_cons_self).number
    intro c hc
    refine hnumber.chars c (List.mem_of_mem_head? ?_)
    rw [joined, List.flatMap_cons, List.append_assoc, List.head?_append_of_ne_nil _ hnumber.ne_nil]
      at hc
    exact hc

theorem IsPair.isNumberChar_of_mem_head? {pair : List Char × List Char} (h : IsPair pair) :
    ∀ c ∈ (pair.2 ++ rest).head?, isNumberChar c = false := by
  intro c hc
  rw [List.head?_append_of_ne_nil _ h.unit_chars.1] at hc
  exact h.unit_chars.2 c (List.mem_of_mem_head? hc)

/-- The longest `runs` of a text of numbers and units are these in turn. -/
theorem runs_joined (h : ∀ p ∈ parts, IsPair p) :
    runs (joined parts) = parts.flatMap fun p => [p.1, p.2] := by
  induction parts with
  | nil => rfl
  | cons p rest ih =>
    have hp := h p List.mem_cons_self
    have hrest : ∀ q ∈ rest, IsPair q := fun q hq => h q (List.mem_cons_of_mem _ hq)
    have hjoined : joined (p :: rest) = p.1 ++ (p.2 ++ joined rest) := by simp [joined]
    rw [hjoined, runs_append hp.number.ne_nil hp.number.chars hp.isNumberChar_of_mem_head?,
      runs_append hp.unit_chars.1 hp.unit_chars.2 (isNumberChar_of_mem_head?_joined hrest), ih hrest]
    simp

/-- A text of numbers and units is read as these by `pairs?`. -/
theorem pairs?_joined (h : ∀ p ∈ parts, IsPair p) : pairs? (joined parts) = some parts := by
  induction parts with
  | nil => simp [joined, pairs?]
  | cons p rest ih =>
    have hp := h p List.mem_cons_self
    have hrest : ∀ q ∈ rest, IsPair q := fun q hq => h q (List.mem_cons_of_mem _ hq)
    obtain ⟨number, unit⟩ := p
    obtain ⟨c, digits, rfl⟩ := List.exists_cons_of_ne_nil hp.number.ne_nil
    have hchars : ∀ d ∈ digits, isNumberChar d := fun d hd =>
      hp.number.chars d (List.mem_cons_of_mem _ hd)
    -- the number ends where the unit begins, and the unit where the next pair begins
    have hnumber : (digits ++ (unit ++ joined rest)).takeWhile isNumberChar = digits ∧
        (digits ++ (unit ++ joined rest)).dropWhile isNumberChar = unit ++ joined rest :=
      span_append hchars hp.isNumberChar_of_mem_head?
    have hunit : (unit ++ joined rest).takeWhile (fun x => !isNumberChar x) = unit ∧
        (unit ++ joined rest).dropWhile (fun x => !isNumberChar x) = joined rest := by
      refine span_append (fun d hd => ?_) fun d hd => ?_
      · simpa using hp.unit_chars.2 d hd
      · simpa using isNumberChar_of_mem_head?_joined hrest d hd
    have hjoined : joined ((c :: digits, unit) :: rest) = c :: (digits ++ (unit ++ joined rest)) := by
      simp [joined]
    rw [hjoined, pairs?, if_pos (hp.number.chars c List.mem_cons_self)]
    simp only [hnumber.1, hnumber.2, hunit.1, hunit.2, ih hrest, Option.map_some]

/-- What is read as numbers has digits and points only. -/
theorem isNumberChar_of_pairs? (h : pairs? cs = some parts) :
    ∀ p ∈ parts, ∀ c ∈ p.1, isNumberChar c := by
  fun_induction pairs? cs generalizing parts with
  | case1 =>
    cases h
    simp
  | case2 c rest hc number tail unit =>
    -- the characters of the first number passed the test one by one, the rest is the hypothesis
    rename_i ih
    obtain ⟨more, hmore, rfl⟩ := Option.map_eq_some_iff.mp h
    intro p hp
    rcases List.mem_cons.mp hp with rfl | hp
    · intro d hd
      rcases List.mem_cons.mp hd with rfl | hd
      · exact hc
      · exact List.mem_takeWhile_imp hd
    · exact ih hmore p hp
  | case3 => cases h

/-- A text is read as numbers and units exactly if these are its `runs`. -/
theorem pairs?_eq_some_iff (h : ∀ p ∈ parts, IsPair p) :
    pairs? cs = some parts ↔ runs cs = parts.flatMap fun p => [p.1, p.2] := by
  constructor
  · intro hread
    rw [← flatten_pairs? hread]
    exact runs_joined h
  · intro hruns
    -- the runs put together again are the characters, so equal runs come from equal characters
    have hcs : cs = joined parts := by
      rw [← List.flatten_splitBy (fun a b => isNumberChar a == isNumberChar b) cs]
      change (runs cs).flatten = _
      rw [hruns, joined, List.flatten_eq_flatMap, List.flatMap_assoc]
      simp
    rw [hcs]
    exact pairs?_joined h

theorem pairNanos?_eq_some_iff {pair : List Char × List Char} {nanos : Binary64}
    (hchars : ∀ c ∈ pair.1, isNumberChar c) :
    pairNanos? pair = some nanos ↔ IsPair pair ∧ nanos = pairNanos pair := by
  constructor
  · intro h
    obtain ⟨⟨digits, places⟩, hread, h⟩ := Option.bind_eq_some_iff.mp h
    obtain ⟨scale, hunit, h⟩ := Option.bind_eq_some_iff.mp h
    obtain ⟨hnumber, hpair⟩ := (numberText?_eq_some_iff hchars).mp hread
    obtain ⟨rfl, rfl⟩ := Prod.mk.inj hpair
    have hmem := unitNanos?_eq_some_iff.mp hunit
    refine ⟨⟨hnumber, scale, hmem⟩, ?_⟩
    rw [pairNanos, numberValue, unitScale_of_mem hmem]
    exact (Option.some.inj h).symm
  · rintro ⟨⟨hnumber, scale, hmem⟩, hnanos⟩
    rw [hnanos, pairNanos?, (numberText?_eq_some_iff hchars).mpr ⟨hnumber, rfl⟩,
      unitNanos?_eq_some_iff.mpr hmem, pairNanos, numberValue, unitScale_of_mem hmem]
    rfl

theorem mapM_pairNanos?_eq_some_iff {values : List Binary64}
    (hchars : ∀ p ∈ parts, ∀ c ∈ p.1, isNumberChar c) :
    parts.mapM pairNanos? = some values ↔
      (∀ p ∈ parts, IsPair p) ∧ values = parts.map pairNanos := by
  induction parts generalizing values with
  | nil => simp [eq_comm]
  | cons p rest ih =>
    have hrest : ∀ q ∈ rest, ∀ c ∈ q.1, isNumberChar c := fun q hq =>
      hchars q (List.mem_cons_of_mem _ hq)
    rw [List.mapM_cons, List.forall_mem_cons, List.map_cons]
    constructor
    · intro h
      obtain ⟨nanos, hfirst, h⟩ := Option.bind_eq_some_iff.mp h
      obtain ⟨more, hmore, hvalues⟩ := Option.bind_eq_some_iff.mp h
      obtain ⟨hpair, hnanos⟩ := (pairNanos?_eq_some_iff (hchars p List.mem_cons_self)).mp hfirst
      obtain ⟨hpairs, hvalues'⟩ := (ih hrest).mp hmore
      rw [hnanos, hvalues'] at hvalues
      exact ⟨⟨hpair, hpairs⟩, (Option.some.inj hvalues).symm⟩
    · rintro ⟨⟨hpair, hpairs⟩, hvalues⟩
      -- the first pair is read alone, and by the hypothesis the rest gives the other values
      have hfirst := (pairNanos?_eq_some_iff hpair.number.chars).mpr ⟨hpair, rfl⟩
      rw [hvalues, hfirst, (ih hrest).mpr ⟨hpairs, rfl⟩]
      rfl

/-- A text has a sum exactly if it is made of numbers and units, and then it is their `total`. -/
theorem sumNanos?_eq_some_iff {sum : Binary64} :
    sumNanos? cs = some sum ↔ ∃ parts, runs cs = parts.flatMap (fun p => [p.1, p.2]) ∧
      (∀ p ∈ parts, IsPair p) ∧ sum = total parts := by
  constructor
  · intro h
    obtain ⟨parts, hread, h⟩ := Option.bind_eq_some_iff.mp h
    obtain ⟨values, hvalues, hsum⟩ := Option.bind_eq_some_iff.mp h
    obtain ⟨hpairs, rfl⟩ := (mapM_pairNanos?_eq_some_iff (isNumberChar_of_pairs? hread)).mp hvalues
    exact ⟨parts, (pairs?_eq_some_iff hpairs).mp hread, hpairs, (Option.some.inj hsum).symm⟩
  · rintro ⟨parts, hruns, hpairs, rfl⟩
    have hvalues := (mapM_pairNanos?_eq_some_iff fun p hp => (hpairs p hp).number.chars).mpr
      ⟨hpairs, rfl⟩
    exact Option.bind_eq_some_iff.mpr ⟨parts, (pairs?_eq_some_iff hpairs).mpr hruns,
      Option.bind_eq_some_iff.mpr ⟨_, hvalues, rfl⟩⟩

/-! ### Durations -/

/-- `Overflows sum` says that `sum` is not finite or does not fit into 64 bits. -/
def Overflows : Binary64 → Prop
  | .finite units => Nat.pow 2 64 * unitsPerOne < units
  | .infinite => True

/-- What a sum comes to that does not overflow. -/
theorem bounded_eq_none_iff (sum : Binary64) :
    (if sum.isAtMost (Nat.pow 2 64) then sum.toNearest?.map (min · (Nat.pow 2 64 - 1)) else none)
      = none ↔ Overflows sum := by
  cases sum with
  | finite units =>
    rw [Overflows, ite_eq_right_iff, Binary64.isAtMost, decide_eq_true_eq, Binary64.toNearest?,
      Option.map_some]
    simp only [reduceCtorEq, imp_false, Nat.not_le]
  | infinite => simp [Overflows, Binary64.isAtMost]

theorem Written.ne_zero (h : Written cs parts) : cs ≠ ['0'] ∧ cs ≠ [] := by
  obtain ⟨p, rest, rfl⟩ := List.exists_cons_of_ne_nil h.ne_nil
  have hlength : 2 ≤ (runs cs).length := by
    rw [h.runs_eq]
    simp
  constructor
  · rintro rfl
    exact absurd hlength (by decide)
  · rintro rfl
    exact absurd hlength (by decide)

/-- A text of the grammar is refused exactly if its sum `Overflows`. -/
theorem Written.durationNanos?_eq_none_iff (h : Written cs parts) :
    durationNanos? cs = none ↔ Overflows (total parts) := by
  have hsum := sumNanos?_eq_some_iff.mpr ⟨parts, h.runs_eq, h.pairs, rfl⟩
  rw [durationNanos?, if_neg h.ne_zero.1, if_neg h.ne_zero.2, hsum]
  exact bounded_eq_none_iff (total parts)

/-- What is read is a bare zero or of the grammar. -/
theorem written_of_durationNanos? {nanos : Nat} (h : durationNanos? cs = some nanos) :
    cs = ['0'] ∨ ∃ parts, Written cs parts := by
  unfold durationNanos? at h
  split at h
  · next hzero => exact .inl hzero
  · split at h
    · cases h
    · next hne =>
      obtain ⟨sum, hsum, -⟩ := Option.bind_eq_some_iff.mp h
      obtain ⟨parts, hruns, hpairs, -⟩ := sumNanos?_eq_some_iff.mp hsum
      refine .inr ⟨parts, ?_, hruns, hpairs⟩
      rintro rfl
      exact hne (List.splitBy_eq_nil.mp hruns)

/-! ### The scan -/

/-- The part of a text that is still to be scanned, and the sum of what has been read. -/
structure Scan where
  /-- The rest of the text. -/
  rest : List Char
  /-- The sum so far. -/
  sum : Binary64

namespace Scan

variable {s t : Scan}

/-- `s.firstNumber` is the run at the beginning of the rest. -/
def firstNumber (s : Scan) : List Char := s.rest.takeWhile isNumberChar

/-- `s.firstUnit` is the run behind `s.firstNumber`. -/
def firstUnit (s : Scan) : List Char :=
  (s.rest.dropWhile isNumberChar).takeWhile fun c => !isNumberChar c

/-- `s.behind` is what is left behind both runs. -/
def behind (s : Scan) : List Char :=
  (s.rest.dropWhile isNumberChar).dropWhile fun c => !isNumberChar c

/-- One round takes a number with its unit off the rest, or the text is refused.  A scan is a loop
of such rounds. -/
def round? (s : Scan) : Option Scan :=
  if s.firstNumber = [] then none
  else (pairNanos? (s.firstNumber, s.firstUnit)).map fun nanos => ⟨s.behind, s.sum.add nanos⟩

/-- `Ends s rounds result` says that the scan ends after a number of rounds: with the sum when
nothing is left, or because the text is refused. -/
inductive Ends : Scan → Nat → Option Binary64 → Prop
  /-- Nothing is left. -/
  | finished {s : Scan} (h : s.rest = []) : Ends s 0 (some s.sum)
  /-- The text is refused. -/
  | refused {s : Scan} (h : s.rest ≠ []) (hround : s.round? = none) : Ends s 1 none
  /-- There is one more round. -/
  | next {s t : Scan} {rounds : Nat} {result : Option Binary64} (h : s.rest ≠ [])
    (hround : s.round? = some t) (hends : Ends t rounds result) : Ends s (rounds + 1) result

/-- `s.result` is the sum that the scan comes to. -/
def result (s : Scan) : Option Binary64 := do
  let parts ← (← pairs? s.rest).mapM pairNanos?
  return parts.foldl Binary64.add s.sum

/-- A round leaves less of the text, as `firstNumber` has a character at least. -/
theorem length_rest_lt (h : s.round? = some t) : t.rest.length < s.rest.length := by
  unfold round? at h
  split at h
  · cases h
  · next hnumber =>
    obtain ⟨nanos, -, rfl⟩ := Option.map_eq_some_iff.mp h
    -- the number and what is left behind it make up the rest, and the number is not empty
    have hlength := congrArg List.length (List.takeWhile_append_dropWhile (p := isNumberChar)
      (l := s.rest))
    have hbehind := (List.dropWhile_sublist (fun c => !isNumberChar c)
      (l := s.rest.dropWhile isNumberChar)).length_le
    have hpos : 0 < s.firstNumber.length := List.length_pos_iff.mpr hnumber
    rw [List.length_append] at hlength
    change s.behind.length < s.rest.length
    change s.behind.length ≤ _ at hbehind
    change s.firstNumber.length + _ = _ at hlength
    omega

/-- The first number and its unit, and what `pairs?` reads behind them. -/
theorem pairs?_rest (h : s.firstNumber ≠ []) :
    pairs? s.rest = (pairs? s.behind).map ((s.firstNumber, s.firstUnit) :: ·) := by
  obtain ⟨cs, sum⟩ := s
  cases cs with
  | nil => exact absurd rfl h
  | cons c rest =>
    have hc : isNumberChar c := by
      by_contra hc
      exact h (List.takeWhile_cons_of_neg hc)
    rw [pairs?, if_pos hc]
    simp only [firstNumber, firstUnit, behind, List.takeWhile_cons_of_pos hc,
      List.dropWhile_cons_of_pos hc]

/-- The rest of a text has a sum if the first round has one and what it leaves. -/
theorem result_of_ne_nil (h : s.rest ≠ []) : s.result = s.round?.bind result := by
  unfold round?
  split
  · next hnumber =>
    obtain ⟨c, rest, hrest⟩ := List.exists_cons_of_ne_nil h
    -- the scan has no number in front only if the first character is not one of a number
    have hc : ¬ isNumberChar c := by
      intro hc
      rw [firstNumber, hrest, List.takeWhile_cons_of_pos hc] at hnumber
      cases hnumber
    rw [result, hrest, pairs?, if_neg hc]
    rfl
  · next hnumber =>
    rw [result, pairs?_rest hnumber]
    -- with a number in front one round reads one pair, whatever comes of the pairs behind it
    cases hbehind : pairs? s.behind with
    | none =>
      cases pairNanos? (s.firstNumber, s.firstUnit) with
      | none => rfl
      | some nanos => simp [result, hbehind]
    | some more =>
      cases hnanos : pairNanos? (s.firstNumber, s.firstUnit) with
      | none => simp [List.mapM_cons, hnanos]
      | some nanos =>
        simp [result, hbehind, List.mapM_cons, hnanos, Option.bind_assoc]

/-- The scan ends, after one round for each character at most.  The induction is on the length of
the rest. -/
theorem exists_ends (s : Scan) : ∃ rounds ≤ s.rest.length, s.Ends rounds s.result := by
  -- by the length of what is left: a round leaves less, so the hypothesis is about a shorter scan
  induction hlength : s.rest.length using Nat.strong_induction_on generalizing s with
  | _ length ih =>
    by_cases hrest : s.rest = []
    · have hresult : s.result = some s.sum := by
        rw [result, hrest, pairs?]
        rfl
      rw [hresult]
      exact ⟨0, Nat.zero_le _, .finished hrest⟩
    · have hpos := List.length_pos_iff.mpr hrest
      rw [result_of_ne_nil hrest]
      cases hround : s.round? with
      | none => exact ⟨1, by omega, .refused hrest hround⟩
      | some t =>
        have hless := length_rest_lt hround
        obtain ⟨rounds, hle, hends⟩ := ih t.rest.length (by omega) t rfl
        exact ⟨rounds + 1, by omega, .next hrest hround hends⟩

end Scan

/-! ### What is read -/

/-- `unsigned text` are the characters of `text` behind a plus sign, if there is one. -/
def unsigned (text : String) : List Char := Text.dropPlus text.toList

/-- **Which durations are read.** A text that is read is a bare zero or made of numbers and units,
behind a plus sign or not; such a text is refused only if the sum overflows; and the scan for the
sum ends. -/
theorem parseDuration_reads (text : String) :
    (∀ nanos, parseDuration text = some nanos →
      unsigned text = ['0'] ∨ ∃ parts, Written (unsigned text) parts) ∧
    (unsigned text = ['0'] → parseDuration text = some 0) ∧
    (∀ parts, Written (unsigned text) parts →
      (parseDuration text = none ↔ Overflows (total parts))) ∧
    ∃ rounds ≤ (unsigned text).length,
      Scan.Ends ⟨unsigned text, .zero⟩ rounds (sumNanos? (unsigned text)) := by
  refine ⟨fun nanos h => written_of_durationNanos? h, fun hzero => ?_,
    fun parts h => h.durationNanos?_eq_none_iff, Scan.exists_ends ⟨unsigned text, .zero⟩⟩
  rw [parseDuration, durationNanos?]
  exact if_pos hzero

/-- A minute and a half, in two parts: `+1m30s`. -/
theorem parseDuration_ninety_seconds :
    Written (unsigned "+1m30s") [(['1'], ['m']), (['3', '0'], ['s'])] ∧
      parseDuration "+1m30s" = some 90000000000 ∧
      ¬ Overflows (total [(['1'], ['m']), (['3', '0'], ['s'])]) := by
  have hone : IsNumber ['1'] :=
    (isNumber_iff_of_digits (List.all_eq_true.mp (by decide))).mpr (List.cons_ne_nil _ _)
  have hthirty : IsNumber ['3', '0'] :=
    (isNumber_iff_of_digits (List.all_eq_true.mp (by decide))).mpr (List.cons_ne_nil _ _)
  have hwritten : Written (unsigned "+1m30s") [(['1'], ['m']), (['3', '0'], ['s'])] := by
    refine ⟨List.cons_ne_nil _ _, by decide, fun p hp => ?_⟩
    rcases List.mem_pair.mp hp with rfl | rfl
    · exact ⟨hone, 60000000000, by decide⟩
    · exact ⟨hthirty, 1000000000, by decide⟩
  -- the value is computed once; that nothing overflows follows from the theorem
  have hread : parseDuration "+1m30s" = some 90000000000 := by decide +kernel
  have hrefused := (parseDuration_reads "+1m30s").2.2.1 _ hwritten
  refine ⟨hwritten, hread, ?_⟩
  rw [← hrefused, hread]
  exact Option.some_ne_none _

end GatewayCompiler.Policy
