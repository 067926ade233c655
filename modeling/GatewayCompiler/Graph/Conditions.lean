import GatewayCompiler.Graph.Match
import GatewayCompiler.Pattern.Engine
import GatewayCompiler.Pattern.Escape
import GatewayCompiler.Resource.Routing
import GatewayCompiler.Text.Quoted

/-!
# Conditions of routes

The conditions along a chain of delegations add up: the beginnings of paths are joined and the
header tests are collected.  The conditions of each single route are checked before.

## Main definitions

* `mergePath`, `mergeHeaders` — what a list of conditions comes to.
* `ConditionError` — the ways in which conditions can be wrong, with their wording.
* `checkPaths`, `checkHeaders`, `checkConditions` — the checks of one route.
-/

namespace GatewayCompiler

/-! ### Merging -/

/-- `dropEndSlashes cs` are the characters `cs` without the slashes at their end. -/
def dropEndSlashes (cs : List Char) : List Char := (cs.reverse.dropWhile (· = '/')).reverse

/-- `dropStartSlashes cs` are the characters `cs` without the slashes in front. -/
def dropStartSlashes (cs : List Char) : List Char := cs.dropWhile (· = '/')

/-- `joinPath front back` are two parts of a path with one slash between them. -/
def joinPath (front back : List Char) : List Char :=
  dropEndSlashes front ++ '/' :: dropStartSlashes back

/-- `c.extend merged` is what is `merged` so far with the beginning that the condition `c` adds. -/
def Condition.extend (c : Condition) (merged : List Char) : List Char :=
  match c.pathPrefix with
  | some next => joinPath merged next.toList
  | none => merged

/-- `mergePathFrom merged conditions` is the test of a path that continues what is `merged` so far.
A pattern ends the list; what was merged before it is taken literally in front of it. -/
def mergePathFrom (merged : List Char) : List Condition → PathMatch
  | [] => .startsWith (String.ofList merged)
  | c :: rest =>
    match c.pathRegex with
    | some pattern =>
      .regex (Pattern.escape (String.ofList (dropEndSlashes merged)) ++ pattern)
    | none => mergePathFrom (c.extend merged) rest

/-- `mergePath conditions` is the test of a path that a list of conditions comes to. -/
def mergePath (conditions : List Condition) : PathMatch := mergePathFrom ['/'] conditions

/-- A text that is there and not empty. -/
def nonEmpty? (text : Option String) : Option String := text.filter (· ≠ "")

/-- `h.toMatch?` is the test of a header; without a name or anything to test there is none. -/
def HeaderTest.toMatch? (h : HeaderTest) : Option HeaderMatch :=
  if Text.isBlankText h.name then none
  else if h.present then some ⟨h.name, "", .present, false⟩
  else match nonEmpty? h.contains with
    | some value => some ⟨h.name, value, .contains, false⟩
    | none => match nonEmpty? h.notContains with
      | some value => some ⟨h.name, value, .contains, true⟩
      | none => match nonEmpty? h.exact with
        | some value => some ⟨h.name, value, .exact, false⟩
        | none => match nonEmpty? h.notExact with
          | some value => some ⟨h.name, value, .exact, true⟩
          | none => none

/-- `mergeHeaders conditions` are the header tests that a list of conditions comes to, in their
order. -/
def mergeHeaders (conditions : List Condition) : List HeaderMatch :=
  conditions.filterMap fun c => c.header.bind HeaderTest.toMatch?

/-! ### Checks -/

/-- The ways in which the conditions of a route can be wrong. -/
inductive ConditionError
  /-- The beginning of a path has no slash in front. -/
  | noSlash (text : String)
  /-- A pattern is refused by the engine. -/
  | badRegex (pattern : String)
  /-- There is more than one test of the path. -/
  | severalPaths
  /-- A header has to be equal to two values. -/
  | conflictingHeader (name : String)
  deriving DecidableEq, Repr

/-- The wording of an error. -/
def ConditionError.message : ConditionError → String
  | .noSlash text => s!"route: prefix conditions must start with /, {text} was supplied"
  | .badRegex pattern => s!"route: invalid regex condition {Text.quoted pattern}: <regex error>"
  | .severalPaths => "route: more than one prefix is not allowed in a condition block"
  | .conflictingHeader name =>
    s!"cannot specify duplicate header 'exact match' conditions in the same route: {name}"

/-- `checkPrefix text` checks that the beginning of a path has a slash in front. -/
def checkPrefix : Option String → Except ConditionError Unit
  | none => .ok ()
  | some text => if text.toList.head? = some '/' then .ok () else .error (.noSlash text)

/-- `checkRegex pattern` checks that a pattern is accepted by the engine. -/
def checkRegex [Pattern.Engine] : Option String → Except ConditionError Unit
  | none => .ok ()
  | some pattern => if Pattern.accepts pattern then .ok () else .error (.badRegex pattern)

/-- `pathCount conditions` is the number of tests of the path, of which a condition may have two. -/
def pathCount (conditions : List Condition) : Nat :=
  (conditions.flatMap fun c => c.pathPrefix.toList ++ c.pathRegex.toList).length

/-- `checkPaths conditions` checks that every test of the path is well-formed, and there is at most
one. -/
def checkPaths [Pattern.Engine] (conditions : List Condition) : Except ConditionError Unit := do
  conditions.forM fun c => do
    checkPrefix c.pathPrefix
    checkRegex c.pathRegex
  if 1 < pathCount conditions then throw .severalPaths

/-- `exactValues conditions` are the values that headers have to be equal to, with the name as
written and in lower case. -/
def exactValues (conditions : List Condition) : List (String × String × String) :=
  conditions.filterMap fun c => do
    let h ← c.header
    let value ← h.exact
    return (h.name, h.name.toLower, value)

/-- `checkExact seen values` checks that no header has to be equal to two values, those `seen`
before included. -/
def checkExact (seen : List (String × String)) :
    List (String × String × String) → Except ConditionError Unit
  | [] => .ok ()
  | (name, key, value) :: rest =>
    match seen.lookup key with
    -- the value that was seen first stays the one to compare with
    | some first =>
      if first = value then checkExact seen rest else .error (.conflictingHeader name)
    | none => checkExact ((key, value) :: seen) rest

/-- `checkHeaders conditions` checks that no header has to be equal to two values. -/
def checkHeaders (conditions : List Condition) : Except ConditionError Unit :=
  checkExact [] (exactValues conditions)

/-- `checkConditions conditions` checks that the conditions of a route are well-formed; errors of
the path go first. -/
def checkConditions [Pattern.Engine] (conditions : List Condition) :
    Except ConditionError Unit := do
  checkPaths conditions
  checkHeaders conditions

/-- `hasRegex conditions` says that the path is tested by a pattern. -/
def hasRegex (conditions : List Condition) : Bool := conditions.any fun c => c.pathRegex.isSome

end GatewayCompiler
