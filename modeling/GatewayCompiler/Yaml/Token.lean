import GatewayCompiler.Document.Node
import GatewayCompiler.Yaml.Lexeme

/-!
# The tokens of a YAML text

The lexer cuts a text into tokens.  Indentation becomes explicit brackets, and so do the keys of
block mappings: whether a scalar is a key shows only at the colon behind it, so a place where a key
may begin is remembered, and the tokens for the key are put in there when the colon comes.

## Main definitions

* `Token` — what the structure of a document is read from.
* `Lexer` — the state between two tokens.
* `Lexer.next` — one token, with the brackets that its column opens or closes.
* `tokens? text` — all tokens of a text.
-/

namespace GatewayCompiler.Yaml

open Document (ScalarStyle)

/-- What the structure of a document is read from. -/
inductive Token
  /-- `%YAML` with a version. -/
  | version (major minor : Nat)
  /-- `%TAG` with a handle and its meaning. -/
  | handle (name meaning : String)
  /-- `---`. -/
  | documentStart
  /-- `...`. -/
  | documentEnd
  /-- The first dash of a block list. -/
  | blockListStart
  /-- The first key of a block mapping. -/
  | blockMappingStart
  /-- The end of a block list or mapping. -/
  | blockEnd
  /-- `[`. -/
  | flowListStart
  /-- `]`. -/
  | flowListEnd
  /-- The opening bracket of a flow mapping. -/
  | flowMappingStart
  /-- The closing bracket of a flow mapping. -/
  | flowMappingEnd
  /-- A dash. -/
  | blockEntry
  /-- A comma. -/
  | flowEntry
  /-- A question mark, or the place of a key without one. -/
  | key
  /-- A colon. -/
  | value
  /-- A reference to an anchor. -/
  | reference (name : String)
  /-- An anchor. -/
  | anchor (name : String)
  /-- A tag as handle and suffix. -/
  | tag (handle suffix : String)
  /-- A scalar. -/
  | scalar (text : String) (style : ScalarStyle)
  deriving DecidableEq

/-- A place where a key without question mark may have begun. -/
structure PossibleKey where
  /-- The number of tokens before it. -/
  position : Nat
  /-- The number of characters before it. -/
  index : Nat
  /-- Its line. -/
  line : Nat
  /-- Its column. -/
  column : Nat
  /-- Whether only a key can stand there. -/
  required : Bool

/-- The state between two tokens. -/
structure Lexer where
  /-- The place reached. -/
  cursor : Cursor
  /-- The tokens so far. -/
  tokens : Array Token := #[]
  /-- The possible key of each open flow collection, the innermost first; the last one belongs to
  the block structure. -/
  keys : List (Option PossibleKey) := [none]
  /-- Whether a key may begin at the place. -/
  keyAllowed : Bool := true
  /-- The column of the innermost block collection, `-1` outside of all. -/
  indent : Int := -1
  /-- The columns of the enclosing block collections. -/
  outer : List Int := []

namespace Lexer

/-- `s.inFlow` says that a flow collection is open. -/
def inFlow (s : Lexer) : Bool := 1 < s.keys.length

/-- `isStale c k` says that a possible key is out of reach: a key stands in one line and within 1024
characters. -/
def isStale (c : Cursor) (k : PossibleKey) : Bool := k.line < c.line || k.index + 1024 < c.index

/-- `freshKeys c keys` are the possible keys that are still within reach; a required one must not be
lost. -/
def freshKeys (c : Cursor) : List (Option PossibleKey) → Option (List (Option PossibleKey))
  | [] => some []
  | some k :: rest =>
    if isStale c k then
      if k.required then none else (none :: ·) <$> freshKeys c rest
    else (some k :: ·) <$> freshKeys c rest
  | none :: rest => (none :: ·) <$> freshKeys c rest

/-- Forget the possible key of the innermost level; a required one must not be lost. -/
def forgetKey (s : Lexer) : Option Lexer :=
  match s.keys with
  | some k :: rest => if k.required then none else some { s with keys := none :: rest }
  | _ => some s

/-- Remember the place as a possible key. -/
def rememberKey (s : Lexer) : Option Lexer :=
  if s.keyAllowed then do
    let required := !s.inFlow && s.indent == (s.cursor.column : Int)
    let s' ← s.forgetKey
    let key : PossibleKey :=
      ⟨s.tokens.size, s.cursor.index, s.cursor.line, s.cursor.column, required⟩
    return { s' with keys := some key :: s'.keys.drop 1 }
  else some s

/-- `s.indentTo column position token` opens a block collection at a column that is further in than
the innermost one.  The token comes at `position` among the tokens. -/
def indentTo (column : Nat) (position : Nat) (token : Token) (s : Lexer) : Lexer :=
  if s.inFlow ∨ (column : Int) ≤ s.indent then s
  else
    { s with
      indent := column
      outer := s.indent :: s.outer
      tokens := s.tokens.insertIdxIfInBounds position token }

/-- Close the block collections that are further in than a column. -/
def dedentFrom (column : Int) : Int → List Int → Array Token → Int × List Int × Array Token
  | indent, [], tokens => (indent, [], tokens)
  | indent, next :: outer, tokens =>
    if column < indent then dedentFrom column next outer (tokens.push .blockEnd)
    else (indent, next :: outer, tokens)

/-- `s.dedentTo column` closes the block collections that are further in than a column; flow
collections ignore it. -/
def dedentTo (column : Int) (s : Lexer) : Lexer :=
  if s.inFlow then s
  else
    let (indent, outer, tokens) := dedentFrom column s.indent s.outer s.tokens
    { s with indent := indent, outer := outer, tokens := tokens }

/-- Add a token. -/
def push (token : Token) (s : Lexer) : Lexer := { s with tokens := s.tokens.push token }

/-- Go on at a place. -/
def goTo (c : Cursor) (s : Lexer) : Lexer := { s with cursor := c }

/-- Say whether a key may begin at the place. -/
def allowKey (allowed : Bool) (s : Lexer) : Lexer := { s with keyAllowed := allowed }

/-- Skip blanks, comments and line breaks.  A tab counts as a blank where no key may begin, and a byte
order mark where a line begins. -/
def skipBlanks : Nat → Lexer → Lexer
  | 0, s => s
  | fuel + 1, s =>
    let bom := s.cursor.column = 0 && s.cursor.isAt '\ufeff'
    let c := if bom then s.cursor.drop 1 else s.cursor
    let tabs := s.inFlow || !s.keyAllowed
    let c := (c.skipWhile fun x => x = ' ' || (tabs && x = '\t')).skipComment
    if c.rest.head?.any isBreak then
      skipBlanks fuel { s with cursor := c.nextLine, keyAllowed := !s.inFlow || s.keyAllowed }
    else { s with cursor := c }

/-- A directive. -/
def directive (s : Lexer) : Option Lexer := do
  let s ← (s.dedentTo (-1)).forgetKey
  let (d, c) ← Lexeme.directive s.cursor
  let token := match d with
    | .version major minor => Token.version major minor
    | .handle name meaning => Token.handle name meaning
  return ((s.allowKey false).push token).goTo c

/-- A document marker. -/
def marker (token : Token) (s : Lexer) : Option Lexer := do
  let s ← (s.dedentTo (-1)).forgetKey
  return ((s.allowKey false).push token).goTo (s.cursor.drop 3)

/-- The start of a flow collection. -/
def flowStart (token : Token) (s : Lexer) : Option Lexer := do
  let s ← s.rememberKey
  let s := { s with keys := none :: s.keys }
  return ((s.allowKey true).push token).goTo (s.cursor.drop 1)

/-- The end of a flow collection. -/
def flowEnd (token : Token) (s : Lexer) : Option Lexer := do
  let s ← s.forgetKey
  let s := if s.inFlow then { s with keys := s.keys.drop 1 } else s
  return ((s.allowKey false).push token).goTo (s.cursor.drop 1)

/-- A comma of a flow collection. -/
def flowEntry (s : Lexer) : Option Lexer := do
  let s ← s.forgetKey
  return ((s.allowKey true).push .flowEntry).goTo (s.cursor.drop 1)

/-- A dash.  In a block it needs a place where an entry may begin. -/
def blockEntry (s : Lexer) : Option Lexer := do
  if ¬ s.inFlow ∧ ¬ s.keyAllowed then none
  let s ← (s.indentTo s.cursor.column s.tokens.size .blockListStart).forgetKey
  return ((s.allowKey true).push .blockEntry).goTo (s.cursor.drop 1)

/-- A question mark. -/
def explicitKey (s : Lexer) : Option Lexer := do
  if ¬ s.inFlow ∧ ¬ s.keyAllowed then none
  let s ← (s.indentTo s.cursor.column s.tokens.size .blockMappingStart).forgetKey
  return ((s.allowKey (!s.inFlow)).push .key).goTo (s.cursor.drop 1)

/-- A colon.  With a `PossibleKey` before it, the tokens for the key are put in there. -/
def value (s : Lexer) : Option Lexer := do
  match s.keys with
  | some k :: rest =>
    let s := { s with tokens := s.tokens.insertIdxIfInBounds k.position .key, keys := none :: rest }
    let s := s.indentTo k.column k.position .blockMappingStart
    return ((s.allowKey false).push .value).goTo (s.cursor.drop 1)
  | _ =>
    if ¬ s.inFlow ∧ ¬ s.keyAllowed then none
    let s := s.indentTo s.cursor.column s.tokens.size .blockMappingStart
    return ((s.allowKey (!s.inFlow)).push .value).goTo (s.cursor.drop 1)

/-- A reference, an anchor, a tag or a scalar: each may begin a key, and none stands directly
before one. -/
def item (read : Cursor → Option (Token × Cursor)) (s : Lexer) : Option Lexer := do
  let s ← s.rememberKey
  let (token, c) ← read s.cursor
  return ((s.allowKey false).push token).goTo c

/-- A block scalar. -/
def blockScalar (literal : Bool) (s : Lexer) : Option Lexer := do
  let s ← s.forgetKey
  let (text, c) ← Lexeme.block literal s.indent s.cursor
  let style := if literal then ScalarStyle.literal else ScalarStyle.quoted
  return ((s.allowKey true).push (.scalar text style)).goTo c

/-- A plain scalar.  A key may begin behind one that a line break follows. -/
def plainScalar (s : Lexer) : Option Lexer := do
  let s ← s.rememberKey
  let (text, broken, c) ← Lexeme.plain s.inFlow (s.indent + 1).toNat s.cursor
  return ((s.allowKey broken).push (.scalar text .plain)).goTo c

/-- `isIndicator x` says that a plain scalar cannot begin with a character, whatever follows. -/
def isIndicator (x : Char) : Bool := "-?:,[]\x7b\x7d#&*!|>'\"%@`".toList.contains x

/-- `s.plainAhead x` says that a plain scalar begins at the place. -/
def plainAhead (s : Lexer) (x : Char) : Bool :=
  !(isSpaceOrBreak x || isIndicator x)
    || (x = '-' && !(s.cursor.rest[1]?.any isSpaceOrTab))
    || (!s.inFlow && (x = '?' || x = ':') && !s.cursor.blankAt 1)

/-- One token, behind the blanks: the place is not the end of the text. -/
def next (s : Lexer) (x : Char) : Option Lexer :=
  let c := s.cursor
  if c.column = 0 ∧ x = '%' then s.directive
  else if c.atMarker '-' then s.marker .documentStart
  else if c.atMarker '.' then s.marker .documentEnd
  else if x = '[' then s.flowStart .flowListStart
  else if x = '\x7b' then s.flowStart .flowMappingStart
  else if x = ']' then s.flowEnd .flowListEnd
  else if x = '\x7d' then s.flowEnd .flowMappingEnd
  else if x = ',' then s.flowEntry
  else if x = '-' ∧ c.blankAt 1 then s.blockEntry
  else if x = '?' ∧ (s.inFlow ∨ c.blankAt 1) then s.explicitKey
  else if x = ':' ∧ (s.inFlow ∨ c.blankAt 1) then s.value
  else if x = '*' then
    s.item fun c => do
      let (name, c') ← Lexeme.anchorName c
      return (.reference name, c')
  else if x = '&' then
    s.item fun c => do
      let (name, c') ← Lexeme.anchorName c
      return (.anchor name, c')
  else if x = '!' then
    s.item fun c => do
      let (handle, suffix, c') ← Lexeme.tag s.inFlow c
      return (.tag handle suffix, c')
  else if x = '|' ∧ ¬ s.inFlow then s.blockScalar true
  else if x = '>' ∧ ¬ s.inFlow then s.blockScalar false
  else if x = '\'' ∨ x = '"' then
    s.item fun c => do
      let (text, c') ← Lexeme.quoted (x = '\'') c
      return (.scalar text .quoted, c')
  else if s.plainAhead x then s.plainScalar
  else none

/-- The state at the end of the text: all collections are closed. -/
def finish (s : Lexer) : Option Lexer := (s.dedentTo (-1)).forgetKey

/-- All tokens ahead.  Every token takes at least one character. -/
def run : Nat → Lexer → Option Lexer
  | 0, _ => none
  | fuel + 1, s => do
    let s := s.skipBlanks (s.cursor.rest.length + 1)
    let keys ← freshKeys s.cursor s.keys
    let s := ({ s with keys := keys }).dedentTo s.cursor.column
    match s.cursor.rest with
    | [] => s.finish
    | x :: _ => run fuel (← s.next x)

end Lexer

/-- `tokens? text` are the tokens of `text`, or nothing if the text is malformed. -/
def tokens? (text : String) : Option (List Token) :=
  let cs := text.toList
  if cs.all isAllowed then do
    let s ← Lexer.run (cs.length + 1) { cursor := Cursor.start cs }
    return s.tokens.toList
  else none

end GatewayCompiler.Yaml
