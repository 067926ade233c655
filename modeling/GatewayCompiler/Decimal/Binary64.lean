/-!
# Non-negative binary64 numbers

Durations are summed in the binary format with 53 significant bits, so a sum of many parts rounds
after each step.  Every finite number of the format is a whole multiple of `2 ^ (-1074)`, and is
stored here as that multiple; all operations are exact on natural numbers and then rounded once.

## Main definitions

* `Binary64` — a non-negative number of the format, or infinity.
* `roundRatio num den` — the multiple of `2 ^ (-1074)` nearest to `num / den` of them that has at
  most 53 significant bits, a tie going to the even significand.
* `Binary64.ofDecimal digits places` — the number nearest to `digits / 10 ^ places`.
* `Binary64.scale`, `Binary64.add` — product with a whole number and sum, both rounded.
* `Binary64.toNearest?` — the nearest whole number, a half going up.
-/

namespace GatewayCompiler.Decimal

/-- A non-negative number of the format, in units of the least positive one.  Numbers beyond the
format are rounded to infinity. -/
inductive Binary64
  /-- The number `units * 2 ^ (-1074)`. -/
  | finite (units : Nat)
  /-- A number beyond the greatest finite one. -/
  | infinite
  deriving DecidableEq, Repr

/-- The number of units in one. -/
def unitsPerOne : Nat := Nat.pow 2 1074

/-- The nearest whole number to `num / den`, a tie going to the even one. -/
def roundHalfEven (num den : Nat) : Nat :=
  let floor := num / den
  let rest := num % den
  if 2 * rest < den then floor
  else if den < 2 * rest then floor + 1
  else floor + floor % 2

/-- The step between neighbours of the format around `units`: one unit as long as 53 bits hold the
number, and a power of two that leaves 53 bits otherwise. -/
def stepAt (units : Nat) : Nat := Nat.pow 2 (units.log2 - 52)

/-- The number of units nearest to `num / den` that the format holds. -/
def roundRatio (num den : Nat) : Nat :=
  let step := stepAt (num / den)
  roundHalfEven num (den * step) * step

/-- `ofUnits units` is the number of that many units, or infinity when it is beyond the format. -/
def ofUnits (units : Nat) : Binary64 :=
  if units < Nat.pow 2 (1024 + 1074) then .finite units else .infinite

namespace Binary64

/-- Zero. -/
def zero : Binary64 := .finite 0

/-- The number nearest to `digits / 10 ^ places`. -/
def ofDecimal (digits places : Nat) : Binary64 :=
  ofUnits (roundRatio (digits * unitsPerOne) (Nat.pow 10 places))

/-- `x.scale factor` is the product of `x` with a positive whole number, rounded. -/
def scale (factor : Nat) : Binary64 → Binary64
  | .finite units => ofUnits (roundRatio (units * factor) 1)
  | .infinite => .infinite

/-- `x.add y` is the sum of `x` and `y`, rounded. -/
def add : Binary64 → Binary64 → Binary64
  | .finite x, .finite y => ofUnits (roundRatio (x + y) 1)
  | _, _ => .infinite

/-- The nearest whole number, a half going up; infinity has none. -/
def toNearest? : Binary64 → Option Nat
  | .finite units => some ((2 * units + unitsPerOne) / (2 * unitsPerOne))
  | .infinite => none

/-- Whether the number is finite and at most the whole number `n`. -/
def isAtMost (n : Nat) : Binary64 → Bool
  | .finite units => units ≤ n * unitsPerOne
  | .infinite => false

end Binary64

end GatewayCompiler.Decimal
