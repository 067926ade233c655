import GatewayCompiler.Pattern.Atom
import GatewayCompiler.Pattern.Expr

/-!
# Bracketed sets in patterns

Between brackets stand characters, ranges, sets with names and further brackets.  Two ampersands,
two hyphens or two tildes combine what stands on their left and right.  Hyphens at the beginning
stand for themselves, and so does a closing bracket that comes first.

## Main definitions

* `Brackets` — the brackets that are open.
* `Brackets.step` — the next item of a set.
* `readBracket` — a set in brackets.
-/

namespace GatewayCompiler.Pattern

/-- The names of the sets that have names of their own in ASCII. -/
def asciiSets : List String :=
  ["alnum", "alpha", "ascii", "blank", "cntrl", "digit", "graph", "lower", "print", "punct", "space",
   "upper", "word", "xdigit"]

/-- `readAsciiSet cs` is the set between colons in brackets, and what follows it.  The opening
bracket is read already. -/
def readAsciiSet (cs : List Char) : Option (SetRef × List Char) :=
  match cs with
  | ':' :: rest =>
    let (negated, rest) := match rest with
      | '^' :: rest => (true, rest)
      | rest => (false, rest)
    match rest.dropWhile (· ≠ ':') with
    | ':' :: ']' :: behind =>
      let name := String.ofList (rest.takeWhile (· ≠ ':'))
      if asciiSets.contains name then some (⟨.ascii name, negated⟩, behind) else none
    | _ => none
  | _ => none

/-- Why a part of a set is kept for later. -/
inductive BracketFrame
  /-- Inner brackets are open; the members of the outer set come in reverse. -/
  | outer (negated : Bool) (members : List CharSet)
  /-- The left side of an operator. -/
  | left (set : CharSet) (operator : SetOperator)

/-- The brackets that are open. -/
structure Brackets where
  /-- The characters ahead. -/
  rest : List Char
  /-- Whether the innermost set is negated. -/
  negated : Bool
  /-- The members of the innermost set so far, in reverse. -/
  members : List CharSet
  /-- What is kept for later, the innermost first. -/
  frames : List BracketFrame

/-- `openBracket f frames cs` are the brackets that open behind an opening bracket, on top of
`frames`. -/
def openBracket (f : Flags) (frames : List BracketFrame) (cs : List Char) : Brackets :=
  let (negated, cs) := match f.skip cs with
    | '^' :: rest => (true, f.skip rest)
    | cs => (false, cs)
  let (hyphens, cs) := f.span (· = '-') cs
  match hyphens, cs with
  | [], ']' :: rest => ⟨f.skip rest, negated, [.char ']'], frames⟩
  | hyphens, cs => ⟨cs, negated, hyphens.map .char, frames⟩

namespace Brackets

/-- `settle set frames` is the innermost set as far as it is read, with the left sides of its
operators, and the frames that are left. -/
def settle (set : CharSet) : List BracketFrame → CharSet × List BracketFrame
  | .left first operator :: frames => settle (.combined operator first set) frames
  | frames => (set, frames)

/-- `b.current` is the set that is read, with the members in their order. -/
def current (b : Brackets) : CharSet := .ofMembers b.members.reverse

/-- `b.combine operator rest` makes the set read so far the left side of an operator. -/
def combine (operator : SetOperator) (b : Brackets) (rest : List Char) : Brackets :=
  let (set, frames) := settle b.current b.frames
  { b with rest, members := [], frames := .left set operator :: frames }

/-- `behindHyphen f cs` is the character behind a hyphen that decides whether it makes a range; in
verbose mode blanks and the sign of a comment are passed over. -/
def behindHyphen (f : Flags) (cs : List Char) : Option Char :=
  if f.verbose then
    match cs.dropWhile Text.isBlank with
    | '#' :: rest => (rest.dropWhile Text.isBlank).head?
    | cs => cs.head?
  else cs.head?

/-- `readItem f cs` is a character, or what an escape stands for, and what follows. -/
def readItem (f : Flags) : List Char → Option (Atom × List Char)
  | [] => none
  | '\\' :: rest => readEscape f rest
  | c :: rest => some (.char c, rest)

/-- `mayHold f c` says that a character may stand in a set: without Unicode mode it has to be an
ASCII one. -/
def mayHold (f : Flags) (c : Char) : Bool := f.unicode || c.toNat < 0x80

/-- `member? f atom` is the member that an atom makes; an assertion makes none. -/
def member? (f : Flags) : Atom → Option CharSet
  | .char c => if mayHold f c then some (.char c) else none
  | .named set => some (.named set)
  | .look _ => none

/-- `readMember f cs` is a member or a range, and what follows. -/
def readMember (f : Flags) (cs : List Char) : Option (CharSet × List Char) := do
  let (first, rest) ← readItem f cs
  match f.skip rest with
  | [] => none
  | '-' :: rest =>
    if behindHyphen f rest = some ']' ∨ behindHyphen f rest = some '-' then
      return (← member? f first, '-' :: rest)
    else
      let (last, rest) ← readItem f (f.skip rest)
      match first, last with
      | .char a, .char b =>
        if a ≤ b ∧ mayHold f a ∧ mayHold f b then return (.range a b, rest) else none
      | _, _ => none
  | rest => return (← member? f first, rest)

/-- `b.step f` are the brackets after one item, or the whole set and what follows it when the last
bracket is closed.  Negated sets are refused without Unicode mode. -/
def step (f : Flags) (b : Brackets) : Option (Brackets ⊕ (Expr × List Char)) :=
  match f.skip b.rest with
  | [] => none
  | '[' :: rest =>
    match readAsciiSet rest with
    | some (set, rest) =>
      if set.negated ∧ ¬ f.unicode then none
      else some (.inl { b with rest, members := .named set :: b.members })
    | none => some (.inl (openBracket f (.outer b.negated b.members :: b.frames) rest))
  | ']' :: rest =>
    if b.negated ∧ ¬ f.unicode then none
    else
      let (set, frames) := settle b.current b.frames
      match frames with
      | .outer negated members :: frames =>
        some (.inl ⟨rest, negated, .bracket b.negated set :: members, frames⟩)
      | _ => some (.inr (.bracket b.negated f.ignoreCase set, rest))
  | '&' :: '&' :: rest => some (.inl (b.combine .intersection rest))
  | '-' :: '-' :: rest => some (.inl (b.combine .difference rest))
  | '~' :: '~' :: rest => some (.inl (b.combine .symmetricDifference rest))
  | cs => do
    let (set, rest) ← readMember f cs
    return .inl { b with rest, members := set :: b.members }

/-- `run f steps b` is the set that is complete after at most `steps` items, and what follows it. -/
def run (f : Flags) : (steps : Nat) → Brackets → Option (Expr × List Char)
  | 0, _ => none
  | steps + 1, b =>
    match b.step f with
    | none => none
    | some (.inl b) => b.run f steps
    | some (.inr result) => some result

end Brackets

/-- `readBracket f cs` is the set in brackets behind an opening bracket, and what follows it.  Every
item takes at least one character, so that there are steps enough. -/
def readBracket (f : Flags) (cs : List Char) : Option (Expr × List Char) :=
  (openBracket f [] cs).run f cs.length

end GatewayCompiler.Pattern
