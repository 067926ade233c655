import GatewayCompiler.Proxy.Basic

/-!
# Timeouts on the way to the proxy

A timeout that is not set, one that never ends and one of some length stay apart in the messages to
the proxy, where the first one is missing, the second one is zero and the third one is a span of
seconds and nanoseconds.  A length of zero counts as not set, so that it is not taken for the
second kind, and all lengths are short enough for signed seconds of 64 bits.

## Main definitions

* `Proxy.Duration.inNanos` — the nanoseconds of a span.

## Main statements

* `Timeout.parse_eq_standard_iff`, `Timeout.parse_eq_infinite_iff`, `Timeout.parse_eq_after_iff` —
  the texts of each kind.
* `Proxy.Duration.inNanos_ofNanos` — a span is as long as the number that it is made of.
* `Timeout.ofTimeout_parse` — the messages of each kind.
-/

namespace GatewayCompiler

open Proxy

/-! ### Kinds of texts -/

namespace Timeout

theorem parseDuration_empty : Policy.parseDuration "" = none := by decide +kernel

theorem parseDuration_infinity : Policy.parseDuration "infinity" = none := by decide +kernel

/-- The kind of a text, by what is left after `Text.trim`. -/
theorem parse_eq (text : String) :
    parse text = if Text.trim text = "" then .standard
      else match Policy.parseDuration (Text.trim text) with
        | none => .infinite
        | some nanos => if nanos = 0 then .standard else .after nanos := by
  by_cases hword : Text.trim text = "infinity"
  · simp [parse, hword, parseDuration_infinity]
  · cases hread : Policy.parseDuration (Text.trim text) <;>
      simp only [parse, if_neg hword, hread]

theorem parse_eq_standard_iff (text : String) :
    parse text = .standard ↔
      Text.trim text = "" ∨ Policy.parseDuration (Text.trim text) = some 0 := by
  rw [parse_eq]
  split
  · next hempty => simp [hempty]
  · next hempty =>
    split
    · next hnone => simp [hempty, hnone]
    · next nanos hsome =>
      rw [hsome]
      by_cases hzero : nanos = 0 <;> simp [hempty, hzero]

theorem parse_eq_infinite_iff (text : String) :
    parse text = .infinite ↔ Text.trim text ≠ "" ∧
      (Text.trim text = "infinity" ∨ Policy.parseDuration (Text.trim text) = none) := by
  have hword : Text.trim text = "infinity" → Policy.parseDuration (Text.trim text) = none :=
    fun h => h ▸ parseDuration_infinity
  rw [or_iff_right_of_imp hword, parse_eq]
  split
  · next hempty => simp [hempty]
  · next hempty =>
    split
    · next hnone => simp [hempty, hnone]
    · next nanos hsome =>
      rw [hsome]
      by_cases hzero : nanos = 0 <;> simp [hzero]

theorem parse_eq_after_iff (text : String) (nanos : Nat) :
    parse text = .after nanos ↔ Policy.parseDuration (Text.trim text) = some nanos ∧ 0 < nanos := by
  rw [parse_eq]
  split
  · next hempty => simp [hempty, parseDuration_empty]
  · split
    · next hnone => simp [hnone]
    · next found hsome =>
      rw [hsome]
      by_cases hzero : found = 0
      · simp only [hzero, if_true, Option.some.injEq, reduceCtorEq, false_iff]
        omega
      · simp only [hzero, if_false, Timeout.after.injEq, Option.some.injEq]
        omega

end Timeout

/-! ### Spans -/

namespace Proxy.Duration

/-- `d.inNanos` are the nanoseconds of the span `d`, a message of seconds and nanoseconds. -/
def inNanos (d : Duration) : Int := d.seconds * 1000000000 + d.nanos

theorem nanos_ofNanos_lt (nanos : Nat) : (ofNanos nanos).nanos < 1000000000 :=
  Nat.mod_lt _ (by decide)

/-- The seconds of a number of nanoseconds that fits into 64 bits fit into as many with a sign. -/
theorem seconds_ofNanos {nanos : Nat} (h : nanos ≤ Nat.pow 2 64 - 1) :
    (ofNanos nanos).seconds = (nanos / 1000000000 : Nat) := by
  have hmodulus : Nat.pow 2 64 = 18446744073709551616 := by rw [Nat.pow_eq]
  rw [hmodulus] at h
  have hsmall : Int.bmod (nanos / 1000000000 : Nat) 18446744073709551616
      = (nanos / 1000000000 : Nat) := Int.bmod_eq_of_le (by omega) (by omega)
  unfold ofNanos
  dsimp only
  rw [hmodulus, hsmall]

theorem inNanos_ofNanos {nanos : Nat} (h : nanos ≤ Nat.pow 2 64 - 1) :
    (ofNanos nanos).inNanos = nanos := by
  rw [inNanos, seconds_ofNanos h]
  change ((nanos / 1000000000 : Nat) : Int) * 1000000000 + ((nanos % 1000000000 : Nat) : Int) = _
  omega

theorem ofTimeout_eq_none_iff (t : Timeout) : ofTimeout t = none ↔ t = .standard := by
  cases t <;> simp [ofTimeout]

/-- Of the lengths that a text can stand for none is taken for a timeout that never ends, which is
sent as `zero`. -/
theorem ofNanos_ne_zero {nanos : Nat} (h : nanos ≤ Nat.pow 2 64 - 1) (hpos : 0 < nanos) :
    ofNanos nanos ≠ zero := by
  intro hzero
  have hnanos := congrArg inNanos hzero
  rw [inNanos_ofNanos h] at hnanos
  change (nanos : Int) = 0 at hnanos
  omega

end Proxy.Duration

/-! ### Messages -/

namespace Timeout

/-- A length that a text stands for is positive and fits into 64 bits. -/
theorem bounds_of_parse_eq_after {text : String} {nanos : Nat} (h : parse text = .after nanos) :
    0 < nanos ∧ nanos ≤ Nat.pow 2 64 - 1 := by
  obtain ⟨hread, hpos⟩ := (parse_eq_after_iff text nanos).mp h
  exact ⟨hpos, Policy.parseDuration_le hread⟩

theorem ofTimeout_parse_eq_some_zero_iff (text : String) :
    Duration.ofTimeout (parse text) = some .zero ↔ parse text = .infinite := by
  cases hparse : parse text with
  | standard => simp [Duration.ofTimeout]
  | infinite => simp [Duration.ofTimeout]
  | after nanos =>
    obtain ⟨hpos, hle⟩ := bounds_of_parse_eq_after hparse
    simpa [Duration.ofTimeout] using Duration.ofNanos_ne_zero hle hpos

/-- The timeouts of two texts are the same if their messages are. -/
theorem parse_eq_of_ofTimeout_eq {text other : String}
    (h : Duration.ofTimeout (parse text) = Duration.ofTimeout (parse other)) :
    parse text = parse other := by
  -- a class is seen from the written timeout: none, zero or a positive number of nanoseconds
  cases hparse : parse text with
  | standard =>
    rw [hparse] at h
    exact ((Duration.ofTimeout_eq_none_iff _).mp h.symm).symm
  | infinite =>
    rw [hparse] at h
    exact ((ofTimeout_parse_eq_some_zero_iff other).mp h.symm).symm
  | after nanos =>
    cases hother : parse other with
    | standard => rw [hparse, hother] at h; cases h
    | infinite =>
      rw [hother] at h
      rw [← hparse]
      exact (ofTimeout_parse_eq_some_zero_iff text).mp h
    | after nanos' =>
      rw [hparse, hother] at h
      have hnanos := congrArg Duration.inNanos (Option.some.inj h)
      rw [Duration.inNanos_ofNanos (bounds_of_parse_eq_after hparse).2,
        Duration.inNanos_ofNanos (bounds_of_parse_eq_after hother).2] at hnanos
      rw [Int.ofNat_inj.mp hnanos]

/-- **The three kinds of timeouts.** The message of a timeout is missing if the text is blank or of
no length, it is zero if the text is the word for no limit or no duration, and otherwise it is as
long as the text says.  The three kinds do not meet. -/
theorem ofTimeout_parse (text : String) :
    (Duration.ofTimeout (parse text) = none ↔
      Text.trim text = "" ∨ Policy.parseDuration (Text.trim text) = some 0) ∧
    (Duration.ofTimeout (parse text) = some .zero ↔ Text.trim text ≠ "" ∧
      (Text.trim text = "infinity" ∨ Policy.parseDuration (Text.trim text) = none)) ∧
    (Duration.ofTimeout (parse text) ≠ none → Duration.ofTimeout (parse text) ≠ some .zero →
      ∃ d nanos, Duration.ofTimeout (parse text) = some d ∧
        Policy.parseDuration (Text.trim text) = some nanos ∧ d.inNanos = nanos ∧ 0 < nanos ∧
        d.nanos < 1000000000 ∧ 0 ≤ d.seconds) ∧
    (∀ nanos, parse text = .after nanos → Duration.ofTimeout (parse text) ≠ some .zero) ∧
    ∀ other, Duration.ofTimeout (parse text) = Duration.ofTimeout (parse other) →
      parse text = parse other := by
  refine ⟨?_, ?_, fun hnone hzero => ?_, fun nanos hafter hzero => ?_,
    fun _ => parse_eq_of_ofTimeout_eq⟩
  · rw [Duration.ofTimeout_eq_none_iff, parse_eq_standard_iff]
  · rw [ofTimeout_parse_eq_some_zero_iff, parse_eq_infinite_iff]
  -- an exact duration is positive and below the bound, so nothing is lost in splitting it
  · cases hparse : parse text with
    | standard => exact absurd ((Duration.ofTimeout_eq_none_iff _).mpr hparse) hnone
    | infinite => exact absurd ((ofTimeout_parse_eq_some_zero_iff text).mpr hparse) hzero
    | after nanos =>
      obtain ⟨hpos, hle⟩ := bounds_of_parse_eq_after hparse
      refine ⟨.ofNanos nanos, nanos, rfl, ((parse_eq_after_iff text nanos).mp hparse).1,
        Duration.inNanos_ofNanos hle, hpos, Duration.nanos_ofNanos_lt nanos, ?_⟩
      rw [Duration.seconds_ofNanos hle]
      exact Int.natCast_nonneg _
  · rw [ofTimeout_parse_eq_some_zero_iff, hafter] at hzero
    cases hzero

/-- Half a second, with blanks around it. -/
theorem ofTimeout_parse_half_second :
    (Duration.ofTimeout (parse " 0.5s ") ≠ none ∧
      Duration.ofTimeout (parse " 0.5s ") ≠ some .zero) ∧
      ∃ d nanos, Duration.ofTimeout (parse " 0.5s ") = some d ∧
        Policy.parseDuration (Text.trim " 0.5s ") = some nanos ∧ d.inNanos = nanos ∧ 0 < nanos ∧
        d.nanos < 1000000000 ∧ 0 ≤ d.seconds := by
  have hmessage : Duration.ofTimeout (parse " 0.5s ") = some ⟨0, 500000000⟩ := by decide +kernel
  have hnone : Duration.ofTimeout (parse " 0.5s ") ≠ none := by
    rw [hmessage]
    exact Option.some_ne_none _
  have hzero : Duration.ofTimeout (parse " 0.5s ") ≠ some .zero := by
    rw [hmessage]
    decide
  exact ⟨⟨hnone, hzero⟩, (ofTimeout_parse " 0.5s ").2.2.1 hnone hzero⟩

end Timeout

end GatewayCompiler
