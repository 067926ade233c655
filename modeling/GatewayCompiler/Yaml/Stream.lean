import GatewayCompiler.Yaml.Token

/-!
# Reading a YAML document

The tokens of a text are read into a tree.  A text holds one document: a second one, or anything
malformed behind the first, makes the whole text unreadable.

An anchor gets a slot, and a reference leads to the node that was registered last in the slot of
its name.  A new name takes the next free slot.  Registration happens where the node begins, so a
node may refer to itself.

## Main definitions

* `Anchors` — the names met so far and the nodes they stand for.
* `Reader` — steps over the tokens ahead.
* `Reader.node` — one node.
* `read? text` — the document of a text.
-/

namespace GatewayCompiler.Yaml

open Document (Node)

/-- The names met so far and the nodes they stand for. -/
structure Anchors where
  /-- The slot of each name, the latest first. -/
  slots : List (String × Nat) := []
  /-- The number of the node registered in each slot, the latest first. -/
  registered : List (Nat × Nat) := []
  /-- The nodes that are complete, by number. -/
  nodes : List (Nat × Node) := []
  /-- The number of nodes registered so far. -/
  count : Nat := 0

namespace Anchors

/-- The number of different names. -/
def names (a : Anchors) : Nat := (a.slots.map Prod.fst).eraseDups.length

/-- `a.register name` registers a node that begins, and answers its number. -/
def register (name : String) (a : Anchors) : Nat × Anchors :=
  let slot := a.names
  (a.count,
    { a with
      slots := (name, slot) :: a.slots
      registered := (slot, a.count) :: a.registered
      count := a.count + 1 })

/-- `a.complete number node` stores a node that is complete. -/
def complete (number : Nat) (node : Node) (a : Anchors) : Anchors :=
  { a with nodes := (number, node) :: a.nodes }

/-- `a.lookup slot` is the node that a slot leads to, if it is complete. -/
def lookup (a : Anchors) (slot : Nat) : Option Node := do
  let number ← a.registered.lookup slot
  a.nodes.lookup number

end Anchors

/-- The tokens ahead and the anchors met. -/
structure Reading where
  /-- The tokens ahead. -/
  tokens : List Token
  /-- The anchors met so far. -/
  anchors : Anchors := {}

/-- A step over the tokens ahead, which may find them malformed. -/
abbrev Reader := StateT Reading Option

namespace Reader

/-- The token ahead. -/
def peek : Reader (Option Token) := do return (← get).tokens.head?

/-- Go past the token ahead. -/
def skip : Reader Unit := modify fun r => { r with tokens := r.tokens.tail }

/-- `isAhead options` says that the token ahead is one of `options`. -/
def isAhead (options : List Token) : Reader Bool := do
  match ← peek with
  | none => return false
  | some token => return options.contains token

/-- Go past the given token, which has to be ahead. -/
def expect (token : Token) : Reader Unit := do
  if ← isAhead [token] then skip else failure

/-- A scalar without characters. -/
def emptyScalar : Node := .scalar ⟨"", .plain, none⟩

/-- The anchor and the tag ahead, in either order. -/
def properties : Reader (Option String × Option (String × String)) := do
  match ← peek with
  | some (.anchor name) =>
    skip
    match ← peek with
    | some (.tag handle suffix) => skip; return (some name, some (handle, suffix))
    | _ => return (some name, none)
  | some (.tag handle suffix) =>
    skip
    match ← peek with
    | some (.anchor name) => skip; return (some name, some (handle, suffix))
    | _ => return (none, some (handle, suffix))
  | _ => return (none, none)

/-- `resolveTag handles tag` is the tag that a handle and a suffix stand for. -/
def resolveTag (handles : List (String × String)) : String × String → Option String
  | (handle, suffix) =>
    if handle = "" then some suffix else (handles.lookup handle).map (· ++ suffix)

/-- Register an anchor, if there is one. -/
def registerAnchor : Option String → Reader (Option Nat)
  | none => return none
  | some name => do
    let r ← get
    let (number, anchors) := r.anchors.register name
    set { r with anchors := anchors }
    return some number

/-- Store a complete node, if it has an anchor. -/
def completeAnchor (number : Option Nat) (node : Node) : Reader Unit :=
  match number with
  | none => pure ()
  | some n => modify fun r => { r with anchors := r.anchors.complete n node }

mutual

/-- One node.  In `block` context block collections may begin, and with `indentless` a list may
stand at the column of its key. -/
def node (handles : List (String × String)) : Nat → (block indentless : Bool) → Reader Node
  | 0, _, _ => failure
  | fuel + 1, block, indentless => do
    match ← peek with
    | some (.reference name) =>
      skip
      match (← get).anchors.slots.lookup name with
      | some slot => return .reference slot
      | none => failure
    | _ =>
      let (anchor, tag) ← properties
      let tag ← (match tag with
        | none => pure none
        | some t => match resolveTag handles t with
          | some resolved => pure (some resolved)
          | none => failure : Reader (Option String))
      let number ← registerAnchor anchor
      let found ← content handles fuel block indentless (anchor.isSome || tag.isSome) tag
      completeAnchor number found
      return found

/-- What follows the anchor and the tag of a node.  With either of them nothing at all may follow,
which stands for a scalar without characters. -/
def content (handles : List (String × String)) :
    Nat → (block indentless marked : Bool) → Option String → Reader Node
  | 0, _, _, _, _ => failure
  | fuel + 1, block, indentless, marked, tag => do
    match ← peek with
    | some .blockEntry =>
      if indentless then return .list tag (← indentlessItems handles fuel)
      else if marked then return .scalar ⟨"", .plain, tag⟩ else failure
    | some (.scalar text style) =>
      skip
      return .scalar ⟨text, style, tag⟩
    | some .flowListStart => skip; return .list tag (← flowItems handles fuel true)
    | some .flowMappingStart => skip; return .mapping tag (← flowPairs handles fuel true)
    | some .blockListStart =>
      if block then skip; return .list tag (← blockItems handles fuel)
      else if marked then return .scalar ⟨"", .plain, tag⟩ else failure
    | some .blockMappingStart =>
      if block then skip; return .mapping tag (← blockPairs handles fuel)
      else if marked then return .scalar ⟨"", .plain, tag⟩ else failure
    | _ => if marked then return .scalar ⟨"", .plain, tag⟩ else failure

/-- `nodeUnless handles fuel ends block` is a node, or the empty scalar where one of the tokens
`ends` is ahead. -/
def nodeUnless (handles : List (String × String)) :
    Nat → List Token → (block : Bool) → Reader Node
  | 0, _, _ => failure
  | fuel + 1, stops, block => do
    if ← isAhead stops then return emptyScalar else node handles fuel block block

/-- The items of a block list. -/
def blockItems (handles : List (String × String)) : Nat → Reader (List Node)
  | 0 => failure
  | fuel + 1 => do
    match ← peek with
    | some .blockEntry =>
      skip
      let item ← (do
        if ← isAhead [.blockEntry, .blockEnd] then return emptyScalar
        else node handles fuel true false : Reader Node)
      return item :: (← blockItems handles fuel)
    | some .blockEnd => skip; return []
    | _ => failure

/-- The items of a list at the column of its key. -/
def indentlessItems (handles : List (String × String)) : Nat → Reader (List Node)
  | 0 => failure
  | fuel + 1 => do
    match ← peek with
    | some .blockEntry =>
      skip
      let item ← (do
        if ← isAhead [.blockEntry, .key, .value, .blockEnd] then return emptyScalar
        else node handles fuel true false : Reader Node)
      return item :: (← indentlessItems handles fuel)
    | _ => return []

/-- The entries of a block mapping. -/
def blockPairs (handles : List (String × String)) : Nat → Reader (List (Node × Node))
  | 0 => failure
  | fuel + 1 => do
    match ← peek with
    | some .key =>
      skip
      let key ← nodeUnless handles fuel [.key, .value, .blockEnd] true
      let value ← valueUnless handles fuel [.key, .value, .blockEnd] true
      return (key, value) :: (← blockPairs handles fuel)
    | some .blockEnd => skip; return []
    | _ => failure

/-- The value behind a colon; an entry without a colon has an empty one. -/
def valueUnless (handles : List (String × String)) :
    Nat → List Token → (block : Bool) → Reader Node
  | 0, _, _ => failure
  | fuel + 1, stops, block => do
    if ← isAhead [.value] then
      skip
      nodeUnless handles fuel stops block
    else return emptyScalar

/-- The items of a flow list.  An item that begins as a key is a mapping of one entry. -/
def flowItems (handles : List (String × String)) : Nat → (first : Bool) → Reader (List Node)
  | 0, _ => failure
  | fuel + 1, first => do
    if ← isAhead [.flowListEnd] then
      skip
      return []
    if ¬ first then expect .flowEntry
    match ← peek with
    | some .flowListEnd => skip; return []
    | some .key =>
      skip
      let key ← (do
        if ← isAhead [.value, .flowEntry, .flowListEnd] then
          skip
          return emptyScalar
        else node handles fuel false false : Reader Node)
      let value ← valueUnless handles fuel [.flowEntry, .flowListEnd] false
      return .mapping none [(key, value)] :: (← flowItems handles fuel false)
    | _ =>
      let item ← node handles fuel false false
      return item :: (← flowItems handles fuel false)

/-- The entries of a flow mapping.  An entry that does not begin as a key has an empty value. -/
def flowPairs (handles : List (String × String)) :
    Nat → (first : Bool) → Reader (List (Node × Node))
  | 0, _ => failure
  | fuel + 1, first => do
    if ← isAhead [.flowMappingEnd] then
      skip
      return []
    if ¬ first then expect .flowEntry
    match ← peek with
    | some .flowMappingEnd => skip; return []
    | some .key =>
      skip
      let key ← nodeUnless handles fuel [.value, .flowEntry, .flowMappingEnd] false
      let value ← valueUnless handles fuel [.flowEntry, .flowMappingEnd] false
      return (key, value) :: (← flowPairs handles fuel false)
    | _ =>
      let key ← node handles fuel false false
      return (key, emptyScalar) :: (← flowPairs handles fuel false)

end

/-- The handles of every document: `!` for local tags and `!!` for those of the notation. -/
def defaultHandles : List (String × String) := [("!", "!"), ("!!", "tag:yaml.org,2002:")]

/-- The directives in front of a document: the handles they define.  A version may be given once,
and a handle may be defined once. -/
def directives : Nat → (versioned : Bool) → List (String × String) →
    Reader (List (String × String))
  | 0, _, _ => failure
  | fuel + 1, versioned, handles => do
    match ← peek with
    | some (.version major minor) =>
      if versioned ∨ major ≠ 1 ∨ (minor ≠ 1 ∧ minor ≠ 2) then failure
      skip
      directives fuel true handles
    | some (.handle name meaning) =>
      if (handles.lookup name).isSome then failure
      skip
      directives fuel versioned (handles ++ [(name, meaning)])
    | _ => return handles

/-- Whether the content of a document is missing: its end, another document or nothing is ahead. -/
def contentMissing : Reader Bool := do
  match ← peek with
  | none => return true
  | some (.version ..) => return true
  | some (.handle ..) => return true
  | some .documentStart => return true
  | some .documentEnd => return true
  | _ => return false

/-- The content of the document ahead.  A document with directives begins with a marker. -/
def document (fuel : Nat) : Reader Node := do
  match ← peek with
  | some (.version ..) | some (.handle ..) | some .documentStart =>
    let defined ← directives fuel false []
    expect .documentStart
    if ← contentMissing then return emptyScalar
    else node (defined ++ defaultHandles) fuel true false
  | _ => node defaultHandles fuel true false

/-- Go past the end markers ahead. -/
def skipEnds : Reader Unit :=
  modify fun r => { r with tokens := r.tokens.dropWhile (· = .documentEnd) }

/-- The root of the only document of the tokens. -/
def root (fuel : Nat) : Reader Node := do
  match ← peek with
  | none => return .absent
  | some _ =>
    let found ← document fuel
    skipEnds
    match ← peek with
    | none => return found
    | some _ => failure

end Reader

/-! ### The size of a document

A document may follow its references a hundred times for every step that walking over its nodes
takes; this keeps a short text from standing for a huge document. -/

mutual

/-- The steps of a walk over a node: one for a scalar, two for a collection beside those inside. -/
def steps : Node → Nat
  | .list _ items => 2 + stepsOfList items
  | .mapping _ entries => 2 + stepsOfEntries entries
  | _ => 1

/-- The steps of a walk over the items of a list. -/
def stepsOfList : List Node → Nat
  | [] => 0
  | item :: rest => steps item + stepsOfList rest

/-- The steps of a walk over the entries of a mapping. -/
def stepsOfEntries : List (Node × Node) → Nat
  | [] => 0
  | (key, value) :: rest => steps key + steps value + stepsOfEntries rest

end

/-- `read? text` is the document written by `text`, or nothing if the text is malformed. -/
def read? (text : String) : Option Document := do
  let tokens ← tokens? text
  let (root, reading) ← (Reader.root (4 * tokens.length + 8)).run { tokens := tokens }
  return ⟨root, reading.anchors.lookup, 100 * steps root⟩

end GatewayCompiler.Yaml
