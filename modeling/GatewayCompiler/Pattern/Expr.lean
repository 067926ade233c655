/-!
# The structure of patterns

A pattern is a tree of characters, sets of characters and assertions, put together by sequence,
alternation, repetition and grouping.

## Main definitions

* `SetRef`, `Look` — the sets with names and the assertions.
* `CharSet` — a set of characters in brackets, with `CharSet.depth`.
* `Expr` — a pattern, with `Expr.depth`.
-/

namespace GatewayCompiler.Pattern

/-! ### Names and assertions -/

/-- The name of a set. -/
inductive SetName
  /-- A letter behind a backslash; without Unicode mode it stands for ASCII characters only. -/
  | letter (c : Char) (unicode : Bool)
  /-- A property of characters, as it is written. -/
  | property (text : List Char)
  /-- A name of its own in ASCII. -/
  | ascii (name : String)
  deriving DecidableEq, Repr

/-- A set with a name. -/
structure SetRef where
  /-- The name. -/
  name : SetName
  /-- Whether the complement is meant. -/
  negated : Bool
  deriving DecidableEq, Repr

/-- The places at the sides of words. -/
inductive WordSide
  /-- A side of a word. -/
  | boundary
  /-- No side of a word. -/
  | interior
  /-- The side in front of a word. -/
  | start
  /-- The side behind a word. -/
  | finish
  /-- No word goes on from the left. -/
  | startHalf
  /-- No word goes on to the right. -/
  | finishHalf
  deriving DecidableEq, Repr

/-- The side of words with a name. -/
def WordSide.ofName? : String → Option WordSide
  | "start" => some .start
  | "end" => some .finish
  | "start-half" => some .startHalf
  | "end-half" => some .finishHalf
  | _ => none

/-- An assertion on the place between two characters. -/
inductive Look
  /-- The start of the text. -/
  | textStart
  /-- The end of the text. -/
  | textEnd
  /-- The start of a line; lines may end with a carriage return too. -/
  | lineStart (carriageReturn : Bool)
  /-- The end of a line. -/
  | lineEnd (carriageReturn : Bool)
  /-- A side of a word; without Unicode mode words have ASCII characters only. -/
  | word (side : WordSide) (unicode : Bool)
  deriving DecidableEq, Repr

/-! ### Patterns -/

/-- The operators between two sets in brackets. -/
inductive SetOperator
  /-- The characters of both sets. -/
  | intersection
  /-- The characters of the left set alone. -/
  | difference
  /-- The characters of just one of the sets. -/
  | symmetricDifference
  deriving DecidableEq, Repr

/-- A set of characters as it is written in brackets. -/
inductive CharSet
  /-- Nothing. -/
  | empty
  /-- One character. -/
  | char (c : Char)
  /-- The characters from one to another. -/
  | range (first last : Char)
  /-- A set with a name. -/
  | named (set : SetRef)
  /-- Another pair of brackets. -/
  | bracket (negated : Bool) (inner : CharSet)
  /-- Two or more sets one after the other. -/
  | union (members : List CharSet)
  /-- Two sets with an operator between them. -/
  | combined (operator : SetOperator) (left right : CharSet)

/-- A pattern. -/
inductive Expr
  /-- Nothing. -/
  | empty
  /-- A setting of flags. -/
  | flags
  /-- An assertion. -/
  | look (look : Look)
  /-- A character; a folded one stands for its other case too. -/
  | char (c : Char) (folded : Bool)
  /-- Any character but the given ones. -/
  | anyChar (excluded : List Char)
  /-- A set with a name; a folded one holds the other cases of its letters too. -/
  | named (set : SetRef) (folded : Bool)
  /-- A set in brackets; a folded one holds the other cases of its letters too. -/
  | bracket (negated folded : Bool) (inner : CharSet)
  /-- A repetition. -/
  | repeated (body : Expr) (least : Nat) (most : Option Nat)
  /-- A group. -/
  | group (capturing : Bool) (body : Expr)
  /-- Two or more patterns one after the other. -/
  | concat (parts : List Expr)
  /-- Two or more patterns of which one is matched. -/
  | alternation (branches : List Expr)

/-- `CharSet.ofMembers members` is a set of sets one after the other, a single one being itself. -/
def CharSet.ofMembers : List CharSet → CharSet
  | [] => .empty
  | [set] => set
  | sets => .union sets

/-- `Expr.ofParts parts` are patterns one after the other, a single one being itself. -/
def Expr.ofParts : List Expr → Expr
  | [] => .empty
  | [part] => part
  | parts => .concat parts

/-- `Expr.ofBranches branches` are patterns of which one is matched, a single one being itself. -/
def Expr.ofBranches : List Expr → Expr
  | [] => .empty
  | [branch] => branch
  | branches => .alternation branches

/-! ### Depth -/

mutual

/-- `s.depth` tells how deeply a set is nested. -/
def CharSet.depth : CharSet → Nat
  | .empty | .char _ | .range _ _ | .named _ => 0
  | .bracket _ inner => inner.depth + 1
  | .union members => CharSet.deepest members + 1
  | .combined _ left right => max left.depth right.depth + 1

/-- The greatest depth of several sets. -/
def CharSet.deepest : List CharSet → Nat
  | [] => 0
  | set :: sets => max set.depth (CharSet.deepest sets)

end

mutual

/-- `e.depth` tells how deeply a pattern is nested. -/
def Expr.depth : Expr → Nat
  | .empty | .flags | .look _ | .char _ _ | .anyChar _ | .named _ _ => 0
  | .bracket _ _ inner => inner.depth + 1
  | .repeated body _ _ => body.depth + 1
  | .group _ body => body.depth + 1
  | .concat parts => Expr.deepest parts + 1
  | .alternation branches => Expr.deepest branches + 1

/-- `deepest parts` is the greatest depth of several patterns. -/
def Expr.deepest : List Expr → Nat
  | [] => 0
  | e :: es => max e.depth (Expr.deepest es)

end

end GatewayCompiler.Pattern
