import GatewayCompiler.Pattern.Read

/-!
# Engines

Whether a pattern is accepted is up to the engine that is going to match it.  An engine accepts
well-formed patterns only, but it need not accept all of them: it may refuse a pattern that is
nested too deeply, or that becomes too large an automaton, and what that comes to is its own affair.
So everything that checks patterns has the engine for a parameter, and what is said about a build is
said for all engines.

## Main definitions

* `Engine` — an engine, given by `Engine.accepts`.
* `LawfulEngine` — what is accepted is well-formed.
* `Expr.length e` — the characters of `e` when counted repetitions are written out.

A program needs some engine to run with.  The one at the end of this file takes the patterns whose
`Expr.depth` and `Expr.length` stay below a bound; it is the one of the examples, where there is
hardly a pattern at all.
-/

namespace GatewayCompiler.Pattern

/-- An engine for patterns: `Engine.accepts pattern` is its verdict on `pattern`.  Nothing is known
of the verdict but what `LawfulEngine` says. -/
class Engine where
  /-- The engine takes `pattern`. -/
  accepts : String → Bool

export Engine (accepts)

/-- What can be relied on with an engine: a pattern that `accepts` takes has a structure, the one that
`read?` finds. -/
class LawfulEngine [Engine] : Prop where
  /-- A malformed `pattern` is refused. -/
  wellFormed {pattern : String} (h : accepts pattern = true) : (read? pattern).isSome = true

/-! ### An engine -/

mutual

/-- The characters that `e` stands for one after the other, where a body that is repeated up to `n`
times is written out `n` times and all alternatives are counted. -/
def Expr.length : Expr → Nat
  | .empty | .flags | .look _ => 0
  | .char _ _ | .anyChar _ | .named _ _ | .bracket _ _ _ => 1
  | .repeated body least most => max 1 (most.getD least) * body.length
  | .group _ body => body.length
  | .concat parts => Expr.lengths parts
  | .alternation branches => Expr.lengths branches

/-- The lengths of several patterns together. -/
def Expr.lengths : List Expr → Nat
  | [] => 0
  | e :: es => e.length + Expr.lengths es

end

/-- The depth up to which a pattern is taken where no other engine is given. -/
def maxDepth : Nat := 250

/-- The length up to which a pattern is taken where no other engine is given. -/
def maxLength : Nat := 327680

/-- The engine where no other one is given: it bounds the depth and the length of a pattern. -/
instance : Engine where
  accepts pattern :=
    match read? pattern with
    | none => false
    | some e => e.depth ≤ maxDepth && e.length ≤ maxLength

instance : LawfulEngine where
  wellFormed {pattern} h := by
    cases hread : read? pattern with
    | none => simp [accepts, hread] at h
    | some e => rfl

end GatewayCompiler.Pattern
