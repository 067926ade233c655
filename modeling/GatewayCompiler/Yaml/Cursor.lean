import GatewayCompiler.Text.Runs

/-!
# Places in a YAML text

The lexer moves over the characters of a text and keeps count of the line and the column, since
both carry meaning.

## Main definitions

* `isBreak`, `isSpaceOrTab`, `isWordChar`, `isAllowed` — character classes.
* `Cursor` — a place: the characters ahead, their distance from the start, line and column.
* `Cursor.drop`, `Cursor.nextLine`, `Cursor.takeWhile` — moves.
-/

namespace GatewayCompiler.Yaml

/-- Line feed, carriage return, next line, line separator and paragraph separator. -/
def isBreak (c : Char) : Bool :=
  c = '\n' || c = '\r' || c = '\x85' || c = '\u2028' || c = '\u2029'

/-- A space or a tab. -/
def isSpaceOrTab (c : Char) : Bool := c = ' ' || c = '\t'

/-- `isSpaceOrBreak c` says that a scalar line is cut at the character `c`. -/
def isSpaceOrBreak (c : Char) : Bool := isSpaceOrTab c || isBreak c

/-- The characters of anchor names, tag handles and directive names. -/
def isWordChar (c : Char) : Bool := c.isAlphanum || c = '_' || c = '-'

/-- The code points that may stand in a text. -/
def allowedRuns : List Nat :=
  [0x9, 0xb, 0xd, 0xe, 0x20, 0x7f, 0x85, 0x86, 0xa0, 0xd800, 0xe000, 0xfffe, 0x10000, 0x110000]

/-- `isAllowed c` says that a character may stand in a text: control characters other than tabs and
line breaks may not. -/
def isAllowed (c : Char) : Bool := Text.inRuns allowedRuns c.toNat

/-- A place in a text. -/
structure Cursor where
  /-- The characters ahead. -/
  rest : List Char
  /-- The number of characters behind. -/
  index : Nat
  /-- The number of lines behind. -/
  line : Nat
  /-- The number of characters of the line that are behind. -/
  column : Nat

namespace Cursor

/-- The start of a text. -/
def start (text : List Char) : Cursor := ⟨text, 0, 0, 0⟩

/-- The place `n` characters ahead in the same line. -/
def drop (n : Nat) (c : Cursor) : Cursor :=
  ⟨c.rest.drop n, c.index + n, c.line, c.column + n⟩

/-- `c.nextLine` is the place behind a line break; a carriage return and a line feed are one
break. -/
def nextLine (c : Cursor) : Cursor :=
  match c.rest with
  | '\r' :: '\n' :: rest => ⟨rest, c.index + 2, c.line + 1, 0⟩
  | _ :: rest => ⟨rest, c.index + 1, c.line + 1, 0⟩
  | [] => c

/-- `c.breakText` is what the line break ahead adds to a scalar: the separators stay themselves, any
other break is a line feed, and the end of the text adds nothing. -/
def breakText (c : Cursor) : List Char :=
  match c.rest with
  | [] => []
  | b :: _ => if b = '\u2028' ∨ b = '\u2029' then [b] else if isBreak b then ['\n'] else []

/-- `c.takeWhile p` are the characters up to the first one that fails the test `p`, and the place of
that one. -/
def takeWhile (p : Char → Bool) (c : Cursor) : List Char × Cursor :=
  let taken := c.rest.takeWhile p
  (taken, c.drop taken.length)

/-- `c.skipWhile p` is the place of the first character that fails the test `p`. -/
def skipWhile (p : Char → Bool) (c : Cursor) : Cursor := (c.takeWhile p).2

/-- The character `n` places ahead. -/
def ahead? (c : Cursor) (n : Nat) : Option Char := c.rest[n]?

/-- `c.isAt x` says that the character ahead is `x`. -/
def isAt (c : Cursor) (x : Char) : Bool := c.rest.head? = some x

/-- `c.atBreak` says that a break or the end of the text is ahead. -/
def atBreak (c : Cursor) : Bool :=
  match c.rest with
  | [] => true
  | x :: _ => isBreak x

/-- Whether the character `n` places ahead is a space, a tab, a break or the end of the text. -/
def blankAt (c : Cursor) (n : Nat) : Bool :=
  match c.rest[n]? with
  | none => true
  | some x => isSpaceOrBreak x

/-- `c.atMarker x` says that the line begins here with three characters `x` that stand alone. -/
def atMarker (c : Cursor) (x : Char) : Bool :=
  c.column = 0 && c.rest.take 3 = [x, x, x] && c.blankAt 3

/-- Whether a document marker is ahead. -/
def atDocumentMarker (c : Cursor) : Bool := c.atMarker '-' || c.atMarker '.'

/-- The place behind a comment, if one is ahead. -/
def skipComment (c : Cursor) : Cursor :=
  if c.isAt '#' then c.skipWhile fun x => !isBreak x else c

/-- `c.skipSpaces` is the place behind the spaces and tabs ahead. -/
def skipSpaces (c : Cursor) : Cursor := c.skipWhile isSpaceOrTab

end Cursor

end GatewayCompiler.Yaml
