import GatewayCompiler.Encoding.Hex
import GatewayCompiler.Yaml.Cursor

/-!
# The lexemes of YAML

How the characters of a scalar, a tag, an anchor or a directive are read at a place where one
begins.  Each reader answers what it read and the place behind it, or nothing for a text that is
malformed there.

## Main definitions

* `plain`, `quoted`, `block` — scalars without quotes, within single or double ones, and in blocks.
* `tag` — a tag as handle and suffix.
* `anchorName` — the name behind `&` or `*`.
* `directive` — a directive line.
-/

namespace GatewayCompiler.Yaml

open Encoding (hexValue?)

namespace Lexeme

/-! ### Folding

Within a scalar that spans lines, a single line feed stands for a space and further breaks for
themselves. -/

/-- The blanks between two pieces of a flow scalar. -/
structure Gap where
  /-- Spaces and tabs in the line. -/
  spaces : List Char := []
  /-- Whether a line ends in the gap. -/
  broken : Bool := false
  /-- The first line break. -/
  first : List Char := []
  /-- The line breaks behind the first. -/
  later : List Char := []

/-- `g.text` is what a gap adds to the scalar: its spaces, or what is left of its line breaks. -/
def Gap.text (g : Gap) : List Char :=
  if g.broken then
    if g.first = ['\n'] then (if g.later.isEmpty then [' '] else g.later)
    else g.first ++ g.later
  else g.spaces

/-- The gap ahead and the place behind it.  With `indent`, a tab that stands before that column in
a later line is refused. -/
def gap (indent : Option Nat) : Nat → Gap → Cursor → Option (Gap × Cursor)
  | 0, _, _ => none
  | fuel + 1, g, c =>
    match c.rest with
    | [] => some (g, c)
    | x :: _ =>
      if isSpaceOrTab x then
        if g.broken then
          if x = '\t' ∧ (indent.any fun n => c.column < n) then none
          else gap indent fuel g (c.drop 1)
        else gap indent fuel { g with spaces := g.spaces ++ [x] } (c.drop 1)
      else if isBreak x then
        if g.broken then gap indent fuel { g with later := g.later ++ c.breakText } c.nextLine
        else gap indent fuel { g with broken := true, first := c.breakText } c.nextLine
      else some (g, c)

/-! ### Plain scalars -/

/-- `isFlowIndicator x` says that a character separates entries of a flow collection. -/
def isFlowIndicator (x : Char) : Bool := x = ',' || x = '[' || x = ']' || x = '\x7b' || x = '\x7d'

/-- `plainPiece inFlow cs` are the characters of a plain scalar up to a blank or an indicator that
ends it.  In a flow collection a colon directly before an indicator is refused. -/
def plainPiece (inFlow : Bool) : List Char → Option (List Char)
  | [] => some []
  | x :: rest =>
    if isSpaceOrBreak x then some []
    else if x = ':' ∧ inFlow ∧ (rest.head?.any fun y => isFlowIndicator y || y = '?') then none
    else if x = ':' ∧ (rest.head?.all isSpaceOrBreak) then some []
    else if inFlow ∧ isFlowIndicator x then some []
    else (x :: ·) <$> plainPiece inFlow rest

/-- The rest of a plain scalar behind the text `acc`; `g` is the gap before the place.  The answer
tells also whether the scalar is followed by a line break. -/
def plainFrom (inFlow : Bool) (indent : Nat) : Nat → List Char → Gap → Cursor →
    Option (List Char × Bool × Cursor)
  | 0, _, _, _ => none
  | fuel + 1, acc, g, c =>
    if c.atDocumentMarker || c.isAt '#' then some (acc, g.broken, c)
    else do
      let piece ← plainPiece inFlow c.rest
      let acc' := if piece.isEmpty then acc else acc ++ g.text ++ piece
      let g' : Gap := if piece.isEmpty then g else {}
      let c' := c.drop piece.length
      if (c'.rest.head?.any isSpaceOrBreak) then
        let (g'', c'') ← gap (some indent) (c'.rest.length + 1) g' c'
        -- a line further left ends the scalar, except in a flow collection
        if ¬ inFlow ∧ c''.column < indent then some (acc', g''.broken, c'')
        else plainFrom inFlow indent fuel acc' g'' c''
      else some (acc', g'.broken, c')

/-- `plain inFlow indent c` is a plain scalar: its text, whether it is followed by a line break, and
the place behind it. -/
def plain (inFlow : Bool) (indent : Nat) (c : Cursor) : Option (String × Bool × Cursor) := do
  let (text, broken, c') ← plainFrom inFlow indent (c.rest.length + 1) [] {} c
  return (String.ofList text, broken, c')

/-! ### Quoted scalars -/

/-- The text of a one-letter escape. -/
def simpleEscape? : Char → Option Char
  | '0' => some '\x00'
  | 'a' => some '\x07'
  | 'b' => some '\x08'
  | 't' => some '\t'
  | '\t' => some '\t'
  | 'n' => some '\n'
  | 'v' => some '\x0b'
  | 'f' => some '\x0c'
  | 'r' => some '\r'
  | 'e' => some '\x1b'
  | ' ' => some ' '
  | '"' => some '"'
  | '/' => some '/'
  | '\\' => some '\\'
  | 'N' => some '\x85'
  | '_' => some '\xa0'
  | 'L' => some '\u2028'
  | 'P' => some '\u2029'
  | _ => none

/-- The number of digits behind a letter that announces a code point. -/
def escapeDigits? : Char → Option Nat
  | 'x' => some 2
  | 'u' => some 4
  | 'U' => some 8
  | _ => none

/-- The number written by exactly the given hexadecimal digits. -/
def hexDigits? : Nat → List Char → Option Nat
  | acc, [] => some acc
  | acc, x :: rest => do hexDigits? (16 * acc + (← hexValue? x)) rest

/-- The character with a given code point, if there is one. -/
def charOf? (n : Nat) : Option Char :=
  if n.isValidChar then some (Char.ofNat n) else none

/-- `quotedPiece single fuel acc c` are the characters of a quoted scalar up to a blank or the
closing quote, and whether an escaped line break ended them. -/
def quotedPiece (single : Bool) : Nat → List Char → Cursor → Option (List Char × Bool × Cursor)
  | 0, _, _ => none
  | fuel + 1, acc, c =>
    match c.rest with
    | [] => some (acc, false, c)
    | x :: rest =>
      if isSpaceOrBreak x then some (acc, false, c)
      else if single then
        if x = '\'' then
          if rest.head? = some '\'' then quotedPiece single fuel (acc ++ ['\'']) (c.drop 2)
          else some (acc, false, c)
        else quotedPiece single fuel (acc ++ [x]) (c.drop 1)
      else if x = '"' then some (acc, false, c)
      else if x = '\\' then
        match rest with
        | [] => none
        | e :: _ =>
          -- an escaped break ends the piece, and the gap behind it begins broken
          if isBreak e then some (acc, true, (c.drop 1).nextLine)
          else match simpleEscape? e, escapeDigits? e with
            | some y, _ => quotedPiece single fuel (acc ++ [y]) (c.drop 2)
            | none, some n =>
              let digits := (c.drop 2).rest.take n
              if digits.length = n then
                match (hexDigits? 0 digits).bind charOf? with
                | some y => quotedPiece single fuel (acc ++ [y]) (c.drop (2 + n))
                | none => none
              else none
            | none, none => none
      else quotedPiece single fuel (acc ++ [x]) (c.drop 1)

/-- The rest of a quoted scalar behind the text `acc`. -/
def quotedFrom (single : Bool) : Nat → List Char → Cursor → Option (List Char × Cursor)
  | 0, _, _ => none
  | fuel + 1, acc, c =>
    if c.atDocumentMarker || c.rest.isEmpty then none
    else do
      let (piece, escaped, c') ← quotedPiece single (c.rest.length + 1) [] c
      let acc' := acc ++ piece
      if c'.isAt (if single then '\'' else '"') then some (acc', c'.drop 1)
      else
        let (g, c'') ← gap none (c'.rest.length + 1) { broken := escaped } c'
        quotedFrom single fuel (acc' ++ g.text) c''

/-- `quoted single c` is a scalar between quotes, read from the opening quote on. -/
def quoted (single : Bool) (c : Cursor) : Option (String × Cursor) := do
  let (text, c') ← quotedFrom single (c.rest.length + 1) [] (c.drop 1)
  return (String.ofList text, c')

/-! ### Block scalars -/

/-- What becomes of the line breaks at the end of a block. -/
inductive Chomping
  /-- The last one is kept. -/
  | clip
  /-- None is kept. -/
  | strip
  /-- All are kept. -/
  | keep
  deriving DecidableEq

/-- The chomping mark ahead. -/
def chomping? (c : Cursor) : Option Chomping :=
  match c.rest.head? with
  | some '+' => some .keep
  | some '-' => some .strip
  | _ => none

/-- The indentation digit ahead, which is not zero; `some none` where there is no digit. -/
def indentDigit? (c : Cursor) : Option (Option Nat) :=
  match c.rest.head? with
  | some x =>
    if x = '0' then none
    else if x.isDigit then some (some (x.toNat - '0'.toNat)) else some none
  | none => some none

/-- `blockHeader c` are the marks behind the indicator of a block: chomping and indentation, in
either order. -/
def blockHeader (c : Cursor) : Option (Chomping × Nat × Cursor) :=
  match chomping? c with
  | some chomp => do
    match ← indentDigit? (c.drop 1) with
    | some n => some (chomp, n, c.drop 2)
    | none => some (chomp, 0, c.drop 1)
  | none => do
    match ← indentDigit? c with
    | some n =>
      match chomping? (c.drop 1) with
      | some chomp => some (chomp, n, c.drop 2)
      | none => some (.clip, n, c.drop 1)
    | none => some (.clip, 0, c)

/-- The empty lines and the indentation ahead: the line breaks, the greatest column reached and the
place behind.  With `indent = 0` the indentation is not known yet and all spaces belong to it. -/
def blockBreaks (indent : Nat) : Nat → List Char → Nat → Cursor →
    Option (List Char × Nat × Cursor)
  | 0, _, _, _ => none
  | fuel + 1, breaks, widest, c =>
    let room := if indent = 0 then c.rest.length else indent - c.column
    let spaces := (c.rest.take room).takeWhile (· = ' ')
    let c' := c.drop spaces.length
    let widest' := max widest c'.column
    if c'.isAt '\t' ∧ (indent = 0 ∨ c'.column < indent) then none
    else if c'.rest.head?.any isBreak then
      blockBreaks indent fuel (breaks ++ c'.breakText) widest' c'.nextLine
    else some (breaks, widest', c')

/-- The lines of a block with a known indentation.  `first` is the break before the place and
`later` the empty lines behind that break; `wasSpace` tells whether the line before begins with a
blank. -/
def blockLines (literal : Bool) (indent : Nat) : Nat → (acc first later : List Char) →
    (wasSpace : Bool) → Cursor → Option (List Char × List Char × List Char × Cursor)
  | 0, _, _, _, _, _ => none
  | fuel + 1, acc, first, later, wasSpace, c =>
    if c.column = indent ∧ ¬ c.rest.isEmpty then do
      let isSpace := c.rest.head?.any isSpaceOrTab
      -- a single break between two lines of text is folded into a space
      let joint :=
        if ¬ literal ∧ first = ['\n'] ∧ ¬ wasSpace ∧ ¬ isSpace then
          (if later.isEmpty then [' '] else later)
        else first ++ later
      let (line, c₁) := c.takeWhile fun x => !isBreak x
      let (later', _, c₂) ← blockBreaks indent (c.rest.length + 1) [] 0 c₁.nextLine
      blockLines literal indent fuel (acc ++ joint ++ line) c₁.breakText later' isSpace c₂
    else some (acc, first, later, c)

/-- `block literal outer c` is a block scalar in a collection of indentation `outer`, read from its
indicator on. -/
def block (literal : Bool) (outer : Int) (c : Cursor) : Option (String × Cursor) := do
  let (chomp, digit, c₁) ← blockHeader (c.drop 1)
  let c₂ := c₁.skipSpaces.skipComment
  if ¬ c₂.atBreak then none
  let c₃ := c₂.nextLine
  let indent := if digit = 0 then 0 else (max outer 0).toNat + digit
  let (later, widest, c₄) ← blockBreaks indent (c₃.rest.length + 1) [] 0 c₃
  -- without a digit the widest line so far decides, the empty ones included
  let indent := if indent = 0 then max widest (max (outer + 1).toNat 1) else indent
  let (text, last, tail, c₅) ←
    blockLines literal indent (c₄.rest.length + 1) [] [] later false c₄
  let ending := match chomp with
    | .clip => last
    | .strip => []
    | .keep => last ++ tail
  return (String.ofList (text ++ ending), c₅)

/-! ### Tags, anchors and directives -/

/-- `anchorName c` is the name of an anchor or a reference, read from its indicator on.  It is
followed by a blank or one of a few indicators. -/
def anchorName (c : Cursor) : Option (String × Cursor) :=
  let (name, c') := (c.drop 1).takeWhile isWordChar
  let ends := c'.blankAt 0 || (c'.rest.head?.any fun x => "?:,]\x7d%@`".toList.contains x)
  if name.isEmpty ∨ ¬ ends then none else some (String.ofList name, c')

/-- `isTagChar verbatim x` says that a character may stand in a tag; those that separate flow
entries stand in verbatim tags only. -/
def isTagChar (verbatim : Bool) (x : Char) : Bool :=
  isWordChar x || ";/?:@&=+$.!~*'()".toList.contains x
    || (verbatim && (x = ',' || x = '[' || x = ']'))

/-- The number of bytes of a character whose first byte is given. -/
def byteCount? (n : Nat) : Option Nat :=
  if n < 0x80 then some 1
  else if 0xc0 ≤ n ∧ n < 0xe0 then some 2
  else if 0xe0 ≤ n ∧ n < 0xf0 then some 3
  else if 0xf0 ≤ n ∧ n < 0xf8 then some 4
  else none

/-- The byte written as a percent sign and two digits. -/
def escapedByte? : List Char → Option (Nat × List Char)
  | '%' :: high :: low :: rest => do
    return (16 * (← hexValue? high) + (← hexValue? low), rest)
  | _ => none

/-- `n` further bytes of a character, each with its six bits. -/
def trailingBytes? : Nat → Nat → List Char → Option (Nat × List Char)
  | 0, acc, rest => some (acc, rest)
  | n + 1, acc, rest => do
    let (byte, rest') ← escapedByte? rest
    if 0x80 ≤ byte ∧ byte < 0xc0 then trailingBytes? n (64 * acc + byte % 64) rest' else none

/-- `escapedChar? rest` is the character written by escaped bytes, and the number of characters that
write it. -/
def escapedChar? (rest : List Char) : Option (Char × Nat) := do
  let (byte, rest') ← escapedByte? rest
  let width ← byteCount? byte
  let lead := if width = 1 then byte else byte % Nat.pow 2 (7 - width)
  let (code, _) ← trailingBytes? (width - 1) lead rest'
  return (Char.ofNat code, 3 * width)

/-- The characters of a tag ahead, escapes resolved. -/
def tagText (verbatim : Bool) : Nat → List Char → Cursor → Option (List Char × Cursor)
  | 0, _, _ => none
  | fuel + 1, acc, c =>
    match c.rest with
    | [] => some (acc, c)
    | x :: _ =>
      if x = '%' then
        match escapedChar? c.rest with
        | some (y, n) => tagText verbatim fuel (acc ++ [y]) (c.drop n)
        | none => none
      else if isTagChar verbatim x then tagText verbatim fuel (acc ++ [x]) (c.drop 1)
      else some (acc, c)

/-- The handle ahead: an exclamation mark and a word, with a second mark or without. -/
def tagHandle (c : Cursor) : Option (List Char × Cursor) :=
  if ¬ c.isAt '!' then none
  else
    let (word, c') := (c.drop 1).takeWhile isWordChar
    if c'.isAt '!' then some ('!' :: word ++ ['!'], c'.drop 1) else some ('!' :: word, c')

/-- `tag inFlow c` is a tag, read from its exclamation mark on: handle and suffix.  The handle is
empty where the suffix is the whole tag. -/
def tag (inFlow : Bool) (c : Cursor) : Option (String × String × Cursor) := do
  let (handle, suffix, c') ← id <|
    if c.ahead? 1 = some '<' then do
      let (suffix, c₁) ← tagText true (c.rest.length + 1) [] (c.drop 2)
      if suffix.isEmpty ∨ ¬ c₁.isAt '>' then none else some ([], suffix, c₁.drop 1)
    else do
      let (handle, c₁) ← tagHandle c
      let (suffix, c₂) ← tagText false (c.rest.length + 1) [] c₁
      if 2 ≤ handle.length ∧ handle.getLast? = some '!' then
        if suffix.isEmpty then none else some (handle, suffix, c₂)
      else
        let suffix := handle.drop 1 ++ suffix
        if suffix.isEmpty then some ([], ['!'], c₂) else some (['!'], suffix, c₂)
  if c'.blankAt 0 ∨ (inFlow ∧ c'.isAt ',') then
    some (String.ofList handle, String.ofList suffix, c')
  else none

/-- The lines of a text that give instructions to the reader. -/
inductive Directive
  /-- The version of the notation. -/
  | version (major minor : Nat)
  /-- What a tag handle stands for. -/
  | handle (name meaning : String)

/-- A number of at most nine digits. -/
def versionNumber (c : Cursor) : Option (Nat × Cursor) :=
  let (digits, c') := c.takeWhile Char.isDigit
  if digits.isEmpty ∨ 9 < digits.length then none
  else some (digits.foldl (fun n d => 10 * n + (d.toNat - '0'.toNat)) 0, c')

/-- `directive c` is a directive, read from its percent sign on, and the place behind its line. -/
def directive (c : Cursor) : Option (Directive × Cursor) := do
  let (name, c₁) := (c.drop 1).takeWhile isWordChar
  if name.isEmpty ∨ ¬ c₁.blankAt 0 then none
  let (d, c₂) ← id <|
    if name = "YAML".toList then do
      let (major, c₂) ← versionNumber c₁.skipSpaces
      if ¬ c₂.isAt '.' then none
      let (minor, c₃) ← versionNumber (c₂.drop 1)
      some (Directive.version major minor, c₃)
    else if name = "TAG".toList then do
      let (handle, c₂) ← tagHandle c₁.skipSpaces
      if handle ≠ ['!'] ∧ (handle.length < 2 ∨ handle.getLast? ≠ some '!') then none
      if ¬ (c₂.rest.head?.any isSpaceOrTab) then none
      let c₃ := c₂.skipSpaces
      let (meaning, c₄) ← tagText true (c₃.rest.length + 1) [] c₃
      if meaning.isEmpty ∨ ¬ c₄.blankAt 0 then none
      some (Directive.handle (String.ofList handle) (String.ofList meaning), c₄)
    else none
  let c₃ := c₂.skipSpaces.skipComment
  if ¬ c₃.atBreak then none
  some (d, c₃.nextLine)

end Lexeme

end GatewayCompiler.Yaml
