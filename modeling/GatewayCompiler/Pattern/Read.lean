import GatewayCompiler.Pattern.Bracket
import GatewayCompiler.Text.Integer
import GatewayCompiler.Text.Letter

/-!
# Reading patterns

A pattern is read item by item from left to right.  Groups that are open are kept on a stack together
with what was read in front of them and the flags that hold again behind them.

## Main definitions

* `Item`, `readItem` — the items of a pattern, and how they are written.
* `Reading`, `Reading.put` — what is read of a pattern, and what an item does to it.
* `readBranches?`, `read?` — the alternatives and the structure of a whole pattern.
-/

namespace GatewayCompiler.Pattern

/-! ### Items -/

/-- An item of a pattern. -/
inductive Item
  /-- A part of an alternative. -/
  | part (part : Expr)
  /-- The bar between two alternatives. -/
  | bar
  /-- The last part is repeated. -/
  | repetition (least : Nat) (most : Option Nat)
  /-- A group opens, which may capture what it matches under a name and may have flags of its own. -/
  | opening (capturing : Bool) (name : Option (List Char)) (flags : Flags)
  /-- The innermost group ends. -/
  | closing
  /-- Flags are set for the rest of the group around them. -/
  | setting (flags : Flags)

/-- `isNameStart c` says that a name of a group may begin with a character. -/
def isNameStart (c : Char) : Bool := c = '_' || Text.isAlphabetic c

/-- `isNamePart c` says that a name of a group may go on with a character. -/
def isNamePart (c : Char) : Bool :=
  isNameStart c || Text.isNumeric c || c = '.' || c = '[' || c = ']'

/-- Whether a text may be the name of a group. -/
def isGroupName : List Char → Bool
  | [] => false
  | c :: rest => isNameStart c && rest.all isNamePart

/-- `readName f cs` is a group with a name, which ends with an angle bracket, and what follows. -/
def readName (f : Flags) (cs : List Char) : Option (Item × List Char) :=
  let name := cs.takeWhile (· ≠ '>')
  match cs.dropWhile (· ≠ '>') with
  | [] => none
  | _ :: rest => if isGroupName name then some (.opening true (some name) f, rest) else none

/-- `readOpening f cs` is the item behind an opening parenthesis: a group, with or without a name or
flags, or a setting of flags.  Assertions on what lies ahead or behind are refused. -/
def readOpening (f : Flags) (cs : List Char) : Option (Item × List Char) :=
  match f.skip cs with
  | '?' :: '=' :: _ | '?' :: '!' :: _ | '?' :: '<' :: '=' :: _ | '?' :: '<' :: '!' :: _ => none
  | '?' :: 'P' :: '<' :: rest | '?' :: '<' :: rest => readName f rest
  | '?' :: rest => do
    let (items, mark, rest) ← readFlagItems [] rest
    let flags := f.apply items
    if mark = ':' then return (.opening false none flags, rest)
    -- a setting without letters would have nothing to set
    else if items = [] then none
    else return (.setting flags, rest)
  | cs => some (.opening true none f, cs)

/-- `readCount f cs` is a number of repetitions with blanks around it, and what follows. -/
def readCount (f : Flags) (cs : List Char) : Option Nat × List Char :=
  let (digits, rest) := f.span Char.isDigit (cs.dropWhile Text.isBlank)
  let count := if digits = [] then none else (Text.natDigits Text.limit32 0 digits).toOption
  (count, f.skip (rest.dropWhile Text.isBlank))

/-- `readCounts f cs` are the numbers of repetitions behind an opening brace: one number, a least
one, or a least and a greatest one. -/
def readCounts (f : Flags) (cs : List Char) : Option (Nat × Option Nat × List Char) :=
  match readCount f (f.skip cs) with
  | (some n, '\x7d' :: rest) => some (n, some n, f.skip rest)
  | (some n, ',' :: rest) =>
    match f.skip rest with
    | '\x7d' :: rest => some (n, none, f.skip rest)
    | rest =>
      match readCount f rest with
      | (some m, '\x7d' :: rest) => if n ≤ m then some (n, some m, f.skip rest) else none
      | _ => none
  | _ => none

/-- The characters behind a mark that makes a repetition reluctant, if there is one. -/
def skipReluctant : List Char → List Char
  | '?' :: rest => rest
  | cs => cs

/-- `ofAtom f atom` is the part that an atom makes. -/
def ofAtom (f : Flags) : Atom → Expr
  | .char c => .char c f.ignoreCase
  | .named set => .named set f.ignoreCase
  | .look look => .look look

/-- `excludedChars f` are the characters that any character does not stand for. -/
def excludedChars (f : Flags) : List Char :=
  if f.dotAll then [] else if f.carriageReturn then ['\n', '\r'] else ['\n']

/-- `anchor f text line` is the assertion of an anchor, which depends on whether it stands for the
ends of lines. -/
def anchor (f : Flags) (text : Look) (line : (carriageReturn : Bool) → Look) : Expr :=
  .look (if f.multiLine then line f.carriageReturn else text)

/-- `readItem f cs` is the item that begins with the first character, and what follows it.  Without
Unicode mode there is no item for any character. -/
def readItem (f : Flags) : List Char → Option (Item × List Char)
  | [] => none
  | '(' :: rest => readOpening f rest
  | ')' :: rest => some (.closing, rest)
  | '|' :: rest => some (.bar, rest)
  | '[' :: rest => (readBracket f rest).map fun (set, rest) => (.part set, rest)
  | '?' :: rest => some (.repetition 0 (some 1), skipReluctant rest)
  | '*' :: rest => some (.repetition 0 none, skipReluctant rest)
  | '+' :: rest => some (.repetition 1 none, skipReluctant rest)
  | '\x7b' :: rest => (readCounts f rest).map fun (least, most, rest) =>
    (.repetition least most, skipReluctant rest)
  | '\\' :: rest => (readEscape f rest).map fun (atom, rest) => (.part (ofAtom f atom), rest)
  | '.' :: rest => if f.unicode then some (.part (.anyChar (excludedChars f)), rest) else none
  | '^' :: rest => some (.part (anchor f .textStart .lineStart), rest)
  | '$' :: rest => some (.part (anchor f .textEnd .lineEnd), rest)
  | c :: rest => some (.part (.char c f.ignoreCase), rest)

/-! ### Groups -/

/-- What is read of a group. -/
structure Level where
  /-- The alternatives that are complete, in reverse. -/
  branches : List Expr := []
  /-- The parts of the last alternative, in reverse. -/
  parts : List Expr := []

namespace Level

/-- `l.add part` is the level with one more part of the last alternative. -/
def add (l : Level) (part : Expr) : Level := { l with parts := part :: l.parts }

/-- `l.nextBranch` begins a new alternative: the last one is complete. -/
def nextBranch (l : Level) : Level := ⟨.ofParts l.parts.reverse :: l.branches, []⟩

/-- `l.allBranches` are the alternatives that are read, in their order. -/
def allBranches (l : Level) : List Expr := l.nextBranch.branches.reverse

/-- `l.toExpr` is the pattern that is read of a group. -/
def toExpr (l : Level) : Expr := .ofBranches l.allBranches

/-- `l.repeatLast least most` is the level with the last part repeated.  There has to be one, and a
setting of flags is none. -/
def repeatLast (l : Level) (least : Nat) (most : Option Nat) : Option Level :=
  match l.parts with
  | [] | .flags :: _ => none
  | part :: parts => some { l with parts := .repeated part least most :: parts }

end Level

/-- A group that is open. -/
structure OpenGroup where
  /-- What is read in front of the group. -/
  outer : Level
  /-- The flags in front of the group. -/
  outerFlags : Flags
  /-- Whether the group captures what it matches. -/
  capturing : Bool

/-! ### Whole patterns -/

/-- What is read of a pattern. -/
structure Reading where
  /-- The characters ahead. -/
  rest : List Char
  /-- The flags. -/
  flags : Flags := {}
  /-- What is read of the innermost group. -/
  level : Level := {}
  /-- The groups that are open, the innermost first. -/
  groups : List OpenGroup := []
  /-- The names of the groups. -/
  names : List (List Char) := []

namespace Reading

/-- `r.put rest item` is the reading after an item.  No two groups have the same name, and a group
that ends has to be open. -/
def put (r : Reading) (rest : List Char) : Item → Option Reading
  | .part part => some { r with rest, level := r.level.add part }
  | .bar => some { r with rest, level := r.level.nextBranch }
  | .repetition least most =>
    (r.level.repeatLast least most).map fun level => { r with rest, level }
  | .opening capturing name flags =>
    if name.any (· ∈ r.names) then none
    else some { rest, flags, level := {}, groups := ⟨r.level, r.flags, capturing⟩ :: r.groups,
                names := name.toList ++ r.names }
  | .closing =>
    match r.groups with
    | [] => none
    | g :: groups =>
      -- flags that were set inside the group end with it
      some { r with rest, groups, flags := g.outerFlags,
                    level := g.outer.add (.group g.capturing r.level.toExpr) }
  | .setting flags => some { r with rest, flags, level := r.level.add .flags }

/-- `r.step cs` is the reading after the item that begins with the first character of `cs`. -/
def step (r : Reading) (cs : List Char) : Option Reading := do
  let (item, rest) ← readItem r.flags cs
  r.put rest item

/-- `run steps r` is the reading at the end of the pattern, which is reached after at most `steps`
items. -/
def run : (steps : Nat) → Reading → Option Reading
  | steps, r =>
    match r.flags.skip r.rest, steps with
    | [], _ => some r
    | _ :: _, 0 => none
    | c :: cs, steps + 1 =>
      match r.step (c :: cs) with
      | none => none
      | some r => run steps r

end Reading

/-- `readBranches? pattern` are the alternatives of a pattern, if it is well-formed.  Every item
takes at least one character, and no group is open at the end. -/
def readBranches? (pattern : String) : Option (List Expr) :=
  let cs := pattern.toList
  match Reading.run cs.length { rest := cs } with
  | none => none
  | some r => if r.groups.isEmpty then some r.level.allBranches else none

/-- `read? pattern` is the structure of a pattern, if it is well-formed.  What it matches is told by
`Expr.Matches`. -/
def read? (pattern : String) : Option Expr := (readBranches? pattern).map .ofBranches

end GatewayCompiler.Pattern
