import GatewayCompiler.Pattern.Escape
import GatewayCompiler.Pattern.Expr
import GatewayCompiler.Pattern.Flags
import GatewayCompiler.Pattern.Property

/-!
# Escapes in patterns

A backslash gives a character another meaning: a letter may stand for a control character, a set of
characters or an assertion, and a character with a meaning of its own stands for itself.

## Main definitions

* `Atom` — what an escape stands for.
* `readEscape` — the atom behind a backslash.
-/

namespace GatewayCompiler.Pattern

/-- What a single item of a pattern stands for. -/
inductive Atom
  /-- A character. -/
  | char (c : Char)
  /-- A set with a name. -/
  | named (set : SetRef)
  /-- An assertion. -/
  | look (look : Look)

/-- The value of a hexadecimal digit. -/
def hexDigit? (c : Char) : Option Nat :=
  if '0' ≤ c ∧ c ≤ '9' then some (c.toNat - '0'.toNat)
  else if 'a' ≤ c ∧ c ≤ 'f' then some (c.toNat - 'a'.toNat + 10)
  else if 'A' ≤ c ∧ c ≤ 'F' then some (c.toNat - 'A'.toNat + 10)
  else none

/-- `hexNumber? acc cs` is the number that hexadecimal digits write behind the ones that are read
already, which come to `acc`. -/
def hexNumber? (acc : Nat) : List Char → Option Nat
  | [] => some acc
  | c :: rest => (hexDigit? c).bind fun d => hexNumber? (16 * acc + d) rest

/-- `charOfCode? n` is the character with the code point `n`, if there is one. -/
def charOfCode? (n : Nat) : Option Char := if n.isValidChar then some (Char.ofNat n) else none

/-- `f.takeExactly n cs` are `n` characters of `cs` with what is passed over between them, and what
follows. -/
def Flags.takeExactly (f : Flags) : Nat → List Char → Option (List Char × List Char)
  | 0, cs => some ([], cs)
  | _ + 1, [] => none
  | n + 1, c :: rest =>
    (f.takeExactly n (f.skip rest)).map fun (taken, left) => (c :: taken, left)

/-- `readCode f digits cs` is the character written by its code point, behind the letter of the
escape: as many digits as the letter asks for, or any number of digits in braces.  Two digits stand
for a byte, which has to be an ASCII character when sets are limited to ASCII. -/
def readCode (f : Flags) (digits : Nat) (cs : List Char) : Option (Atom × List Char) :=
  match f.skip cs with
  | '\x7b' :: rest =>
    match f.span (· ≠ '\x7d') (f.skip rest) with
    | (code, '\x7d' :: rest) => do
      if code = [] then none
      let c ← charOfCode? (← hexNumber? 0 code)
      return (.char c, f.skip rest)
    | _ => none
  | cs => do
    let (code, rest) ← f.takeExactly digits cs
    let c ← charOfCode? (← hexNumber? 0 code)
    if ¬ f.unicode ∧ digits = 2 ∧ 0x7f < c.toNat then none
    return (.char c, rest)

/-- `splitAt? mark cs` is what stands in front of the first place where `mark` occurs, and what
stands behind it. -/
def splitAt? (mark : List Char) : List Char → Option (List Char × List Char)
  | [] => none
  | c :: rest =>
    if mark.isPrefixOf (c :: rest) then some ([], (c :: rest).drop mark.length)
    else (splitAt? mark rest).map fun (before, behind) => (c :: before, behind)

/-- Whether a property is written by `text`: by its name, or by its name and its value. -/
def isPropertyText (text : List Char) : Bool :=
  match splitAt? ['!', '='] text <|> splitAt? [':'] text <|> splitAt? ['='] text with
  | some (name, value) => isPropertyValue name value
  | none => isProperty text

/-- `readProperty f negated cs` is the set of a property, behind the letter of the escape: the name
is a single letter, or any text in braces.  Sets that are limited to ASCII have no properties. -/
def readProperty (f : Flags) (negated : Bool) (cs : List Char) : Option (Atom × List Char) := do
  let (name, rest) ← match f.skip cs with
    | [] | '\\' :: _ => none
    | '\x7b' :: rest =>
      match f.span (· ≠ '\x7d') (f.skip rest) with
      | (name, '\x7d' :: rest) => some (name, rest)
      | _ => none
    | c :: rest => some ([c], f.skip rest)
  if ¬ f.unicode ∨ ¬ isPropertyText name then none
  return (.named ⟨.property name, negated⟩, rest)

/-- The set that is written by a `letter`.  Without characters beyond ASCII its complement, which is
not limited to ASCII, is refused. -/
def classAtom? (f : Flags) (letter : Char) (negated : Bool) : Option Atom :=
  if negated ∧ ¬ f.unicode then none else some (.named ⟨.letter letter f.unicode, negated⟩)

/-- `letterAtom? f c` is the atom that a letter behind a backslash stands for. -/
def letterAtom? (f : Flags) : Char → Option Atom
  | 'd' => classAtom? f 'd' false
  | 'D' => classAtom? f 'd' true
  | 's' => classAtom? f 's' false
  | 'S' => classAtom? f 's' true
  | 'w' => classAtom? f 'w' false
  | 'W' => classAtom? f 'w' true
  | 'a' => some (.char '\x07')
  | 'f' => some (.char '\x0c')
  | 't' => some (.char '\t')
  | 'n' => some (.char '\n')
  | 'r' => some (.char '\r')
  | 'v' => some (.char '\x0b')
  | 'A' => some (.look .textStart)
  | 'z' => some (.look .textEnd)
  | 'B' => some (.look (.word .interior f.unicode))
  | '<' => some (.look (.word .start f.unicode))
  | '>' => some (.look (.word .finish f.unicode))
  | _ => none

/-- `isEscapable c` says that a character stands for itself behind a backslash: every ASCII
character that is no letter and no digit does, the angle brackets excepted. -/
def isEscapable (c : Char) : Bool :=
  isMeta c || (c.toNat < 0x80 && !c.isAlphanum && c ≠ '<' && c ≠ '>')

/-- `isLookChar c` says that a character may stand in the name of an assertion. -/
def isLookChar (c : Char) : Bool := c.isAlpha || c = '-'

/-- `readBoundary f cs` is the side of a word that is meant, and what follows: it may be narrowed by
a name in braces, while braces with anything else do not belong to it. -/
def readBoundary (f : Flags) (cs : List Char) : Option (WordSide × List Char) :=
  match cs with
  | '\x7b' :: rest =>
    match f.skip rest with
    | [] => none
    | c :: rest =>
      if isLookChar c then
        match f.span isLookChar (c :: rest) with
        | (name, '\x7d' :: rest) => (WordSide.ofName? (String.ofList name)).map (·, rest)
        | _ => none
      else some (.boundary, cs)
  | _ => some (.boundary, cs)

/-- `readEscape f cs` is the atom behind a backslash, and what follows it. -/
def readEscape (f : Flags) : List Char → Option (Atom × List Char)
  | [] => none
  | 'x' :: rest => readCode f 2 rest
  | 'u' :: rest => readCode f 4 rest
  | 'U' :: rest => readCode f 8 rest
  | 'p' :: rest => readProperty f false rest
  | 'P' :: rest => readProperty f true rest
  | 'b' :: rest => (readBoundary f rest).map fun (side, rest) => (.look (.word side f.unicode), rest)
  | c :: rest =>
    if isEscapable c then some (.char c, rest)
    else (letterAtom? f c).map fun atom => (atom, rest)

end GatewayCompiler.Pattern
