/-!
# Character classes given by runs

A class of characters is stored as the increasing list of the places where it begins and stops.
The list reads `[start₁, stop₁, start₂, stop₂, …]`, and a run holds its start and not its stop.

## Main definitions

* `inRuns ends n` — whether `n` lies in one of the runs.
-/

namespace GatewayCompiler.Text

/-- Whether `n` lies in one of the half-open runs whose ends are listed in increasing order.
The search stops at the first run that begins behind `n`. -/
def inRuns : List Nat → Nat → Bool
  | start :: stop :: rest, n =>
    if n < start then false else if n < stop then true else inRuns rest n
  | _, _ => false

end GatewayCompiler.Text
