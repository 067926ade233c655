import GatewayCompiler.Decimal.Binary64
import GatewayCompiler.Text.Integer

/-!
# Durations

A duration is written as numbers with units, such as `1m30s` or `1.5h`, or as a bare zero.  The
parts are summed as binary floating point numbers and the sum is rounded to nanoseconds.

## Main definitions

* `unitNanos?` — the nanoseconds of a unit.
* `numberText?` — the digits of a number and how many of them follow the point.
* `pairs?` — the numbers and units of a text.
* `parseDuration` — the nanoseconds that a text stands for.

## Main statements

* `flatten_pairs?` — the numbers and units make up the whole text.
* `parseDuration_le` — a duration fits into 64 bits.
-/

namespace GatewayCompiler.Policy

open Decimal

/-- Whether `c` belongs to a number: an ASCII digit or a point. -/
def isNumberChar (c : Char) : Bool := c.isDigit || c = '.'

/-- `unitNanos? unit` are the nanoseconds of a unit; microseconds may be written with either micro
sign. -/
def unitNanos? (unit : String) : Option Nat :=
  if unit = "ns" then some 1
  else if unit = "us" ∨ unit = "\u00b5s" ∨ unit = "\u03bcs" then some 1000
  else if unit = "ms" then some 1000000
  else if unit = "s" then some 1000000000
  else if unit = "m" then some 60000000000
  else if unit = "h" then some 3600000000000
  else none

/-- `digitsValue digits` is the value of a run of digits, zero for none. -/
def digitsValue (digits : List Char) : Nat :=
  digits.foldl (fun acc c => 10 * acc + (c.toNat - '0'.toNat)) 0

/-- `numberText? number` are the digits of a number, with the count of those behind the point.
There is at least one digit and at most one point. -/
def numberText? (number : List Char) : Option (Nat × Nat) :=
  let whole := number.takeWhile Char.isDigit
  let part := (number.dropWhile Char.isDigit).drop 1
  if whole ++ part ≠ [] ∧ part.all Char.isDigit then
    some (digitsValue (whole ++ part), part.length)
  else none

/-- `pairs? cs` are the numbers and units of a text, which has to begin with a number.  A unit
reaches up to the next number. -/
def pairs? : List Char → Option (List (List Char × List Char))
  | [] => some []
  | c :: rest =>
    if isNumberChar c then
      let number := c :: rest.takeWhile isNumberChar
      let tail := rest.dropWhile isNumberChar
      let unit := tail.takeWhile fun x => !isNumberChar x
      (pairs? (tail.dropWhile fun x => !isNumberChar x)).map ((number, unit) :: ·)
    else none
termination_by cs => cs.length
decreasing_by
  have h₁ := (List.dropWhile_sublist (fun x => !isNumberChar x)
    (l := rest.dropWhile isNumberChar)).length_le
  have h₂ := (List.dropWhile_sublist isNumberChar (l := rest)).length_le
  simp only [List.length_cons]
  omega

/-- `pairNanos? pair` are the nanoseconds of one number with its unit, rounded once. -/
def pairNanos? (pair : List Char × List Char) : Option Binary64 := do
  let (digits, places) ← numberText? pair.1
  let scale ← unitNanos? (String.ofList pair.2)
  return (Binary64.ofDecimal digits places).scale scale

/-- `sumNanos? text` is the sum of all numbers with their units, from left to right. -/
def sumNanos? (text : List Char) : Option Binary64 := do
  let parts ← (← pairs? text).mapM pairNanos?
  return parts.foldl Binary64.add Binary64.zero

/-- `durationNanos? cs` are the nanoseconds that a text without a sign stands for.  A bare zero
needs no unit.  Sums that do not fit into 64 bits are refused. -/
def durationNanos? (cs : List Char) : Option Nat :=
  if cs = ['0'] then some 0
  else if cs = [] then none
  else do
    let sum ← sumNanos? cs
    if sum.isAtMost (Nat.pow 2 64) then sum.toNearest?.map (min · (Nat.pow 2 64 - 1)) else none

/-- `parseDuration text` are the nanoseconds that `text` stands for.  A plus sign may stand in
front. -/
def parseDuration (text : String) : Option Nat := durationNanos? (Text.dropPlus text.toList)

/-! ### Laws -/

/-- The numbers and units of a text make up the whole text: `pairs?` leaves nothing out. -/
theorem flatten_pairs? {cs : List Char} {parts : List (List Char × List Char)}
    (h : pairs? cs = some parts) : parts.flatMap (fun p => p.1 ++ p.2) = cs := by
  fun_induction pairs? cs generalizing parts with
  | case1 => cases h; rfl
  | case2 c rest hc number tail unit =>
    rename_i ih
    obtain ⟨more, hmore, rfl⟩ := Option.map_eq_some_iff.mp h
    simp [ih hmore, number, unit, tail, List.takeWhile_append_dropWhile]
  | case3 => cases h

/-- A duration fits into 64 bits. -/
theorem parseDuration_le {text : String} {nanos : Nat} (h : parseDuration text = some nanos) :
    nanos ≤ Nat.pow 2 64 - 1 := by
  simp only [parseDuration, durationNanos?, Option.bind_eq_bind] at h
  split at h
  · have := Option.some.inj h
    omega
  · split at h
    · cases h
    · obtain ⟨sum, _, h⟩ := Option.bind_eq_some_iff.mp h
      split at h
      · obtain ⟨n, _, rfl⟩ := Option.map_eq_some_iff.mp h
        exact Nat.min_le_right ..
      · cases h

end GatewayCompiler.Policy
