import GatewayCompiler.Document.Node
import GatewayCompiler.Document.Scalar

/-!
# Decoding a document

A decoder turns a node into a value of the type that is expected at its place.  Texts that look like
something else are taken as they are where a text is expected; numbers and booleans are never made
out of quoted texts.

The content of a place may be missing: an empty plain scalar stands for an empty list, mapping or
text, and for null where null is allowed.

## Main definitions

* `Decode` — decoding with the nodes behind references at hand.
* `text`, `flag`, `unsigned`, `signed`, `optional`, `list`, `texts`, `oneOf` — decoders of values.
* `Fields`, `record`, `openRecord`, `lenientRecord` — the fields of a mapping.
* `typed` — a node whose scalars are read by their own look.
* `Document.decode?` — the value of a whole document.
-/

namespace GatewayCompiler.Document

/-- Decoding, with the nodes behind references and the number of references that may still be
followed.  It answers `none` where a node does not fit. -/
abbrev Decode := ReaderT (Nat → Option Node) (StateT Nat Option)

namespace Decode

/-- `follow node` is the node itself, or the one that it refers to. -/
def follow : Node → Decode Node
  | .reference slot => do
    match ← get with
    | 0 => failure
    | jumps + 1 =>
      set jumps
      match (← read) slot with
      | some node => return node
      | none => failure
  | node => return node

/-- `coreTag name` is the tag of that name which the notation defines. -/
def coreTag (name : String) : String := "tag:yaml.org,2002:" ++ name

/-- `barePlain? tagName s` is the text of a scalar that may stand for a number or a boolean: without
quotes, or a block with the tag of that type. -/
def barePlain? (tagName : String) (s : Scalar) : Option String :=
  match s.style with
  | .plain => some s.text
  | .literal => if s.tag = some (coreTag tagName) then some s.text else none
  | .quoted => none

/-- `text node` is the text written by `node`; every scalar is one. -/
def text (node : Node) : Decode String := do
  match ← follow node with
  | .text t => return t
  | .scalar s => return s.text
  | _ => failure

/-- `flag node` is the boolean written by `node`. -/
def flag (node : Node) : Decode Bool := do
  match ← follow node with
  | .bool b => return b
  | .scalar s => match (barePlain? "bool" s).bind Plain.bool? with
    | some b => return b
    | none => failure
  | _ => failure

/-- `unsigned limit node` is a whole number from zero up to and without `limit`. -/
def unsigned (limit : Nat) (node : Node) : Decode Nat := do
  match ← follow node with
  | .int n => if 0 ≤ n ∧ n < limit then return n.toNat else failure
  | .scalar s => match (barePlain? "int" s).bind (Plain.unsigned? limit) with
    | some n => return n
    | none => failure
  | _ => failure

/-- A whole number from `-bound` up to and without `bound`. -/
def signed (bound : Nat) (node : Node) : Decode Int := do
  match ← follow node with
  | .int n => if -(bound : Int) ≤ n ∧ n < bound then return n else failure
  | .scalar s => match (barePlain? "int" s).bind (Plain.signed? bound) with
    | some n => return n
    | none => failure
  | _ => failure

/-- `optional decoder node` is the value that `decoder` finds, or nothing for null. -/
def optional {α : Type} (decoder : Node → Decode α) (node : Node) : Decode (Option α) := do
  match ← follow node with
  | .null | .absent => return none
  | .scalar s =>
    if s.style ≠ .plain then return some (← decoder (.scalar s))
    else match s.tag with
      | none =>
        -- only a plain scalar without a tag is null by its look
        if s.text = "" ∨ Plain.isNullWord s.text then return none
        else return some (← decoder (.scalar s))
      | some tag =>
        if tag = coreTag "null" then
          if Plain.isNullWord s.text then return none else failure
        else return some (← decoder (.scalar s))
  | found => return some (← decoder found)

/-- `isMissing node` says that `node` is a scalar without characters and quotes, or nothing at
all. -/
def isMissing : Node → Bool
  | .absent => true
  | .scalar s => s.text = "" && s.style = .plain
  | _ => false

/-- `list decoder node` are the values that `decoder` finds at the items of a list. -/
def list {α : Type} (decoder : Node → Decode α) (node : Node) : Decode (List α) := do
  let found ← follow node
  -- a key without a value stands for the empty list
  if isMissing found then return []
  match found with
  | .list _ items => items.mapM decoder
  | _ => failure

/-- `entries node` are the entries of a mapping, its keys read as texts. -/
def entries (node : Node) : Decode (List (String × Node)) := do
  let found ← follow node
  if isMissing found then return []
  match found with
  | .mapping _ pairs => pairs.mapM fun p => do return (← text p.1, p.2)
  | _ => failure

/-- A mapping from texts to texts, as the list of its entries. -/
def texts (node : Node) : Decode (List (String × String)) := do
  (← entries node).mapM fun p => do return (p.1, ← text p.2)

/-- `oneOf find? node` is one of several named values: its name, which may also be written as a tag
in front of nothing or as a mapping from the name to null. -/
def oneOf {α : Type} (find? : String → Option α) (node : Node) : Decode α := do
  let name ← (do
    match ← follow node with
    | .text t => return t
    | .mapping none [(.text t, .null)] => return t
    | .scalar s =>
      match s.tag.map String.toList with
      | some ('!' :: name) =>
        if s.style = .plain ∧ (s.text = "" ∨ Plain.isNullWord s.text) then
          return String.ofList name
        else failure
      | _ => return s.text
    | _ => failure : Decode String)
  match find? name with
  | some value => return value
  | none => failure

/-! ### Records -/

/-- The fields of a record by name. -/
structure Fields where
  /-- The names with the nodes of their values. -/
  entries : List (String × Node)

namespace Fields

variable {α : Type}

/-- `f.find? name decoder` is the value of a field, if it is there.  Of a repeated field the last
value counts, but every one of them has to be well-formed. -/
def find? (f : Fields) (name : String) (decoder : Node → Decode α) : Decode (Option α) := do
  let values ← (f.entries.filter fun p => p.1 = name).mapM fun p => decoder p.2
  return values.getLast?

/-- `f.getOr name missing decoder` is the value of a field, and `missing` if it is not there. -/
def getOr (f : Fields) (name : String) (missing : α) (decoder : Node → Decode α) : Decode α := do
  return (← f.find? name decoder).getD missing

/-- `f.required name decoder` is the value of a field that has to be there. -/
def required (f : Fields) (name : String) (decoder : Node → Decode α) : Decode α := do
  match ← f.find? name decoder with
  | some value => return value
  | none => failure

/-- `f.optional name decoder` is the value of a field that may be missing or null. -/
def optional (f : Fields) (name : String) (decoder : Node → Decode α) : Decode (Option α) :=
  f.getOr name none (Decode.optional decoder)

end Fields

/-- The fields of a record with the given names.  None of them may come twice; other names are
passed over, or refused when the record is `closed`. -/
def record (names : List String) (closed : Bool) (node : Node) : Decode Fields := do
  let found ← entries node
  let known := found.filter fun p => names.contains p.1
  -- names that are not known may be repeated
  if ¬ (known.map Prod.fst).Nodup then failure
  if closed ∧ known.length ≠ found.length then failure
  return ⟨known⟩

/-- `openRecord node` are the fields of a record in which names may be repeated. -/
def openRecord (node : Node) : Decode Fields := do
  return ⟨← entries node⟩

/-- `lenientRecord node` are the fields of a record in which names may be repeated, and which may be
null. -/
def lenientRecord (node : Node) : Decode Fields := do
  return (← optional openRecord node).getD ⟨[]⟩

/-! ### Scalars read by their own look -/

/-- `plainValue text` is the value of a plain text by its own look: nothing and the words for null,
booleans, numbers, and anything else as a text.  Whole numbers beyond 64 bits are refused. -/
def plainValue (text : String) : Decode Node :=
  if text = "" ∨ Plain.isNullWord text then return .null
  else match Plain.bool? text with
    | some b => return .bool b
    | none => match wholeNumber? text with
      | some (some n) => return .int n
      | some none => failure
      | none => if Plain.isFraction text then return .fraction else return .text text
where
  /-- A whole number, without its value when it does not fit into 64 bits. -/
  wholeNumber? (text : String) : Option (Option Int) :=
    match Plain.unsigned? (Nat.pow 2 64) text, Plain.negative? (Nat.pow 2 63) text with
    | some n, _ => some (some n)
    | none, some n => some (some n)
    | none, none =>
      if (Plain.unsigned? (Nat.pow 2 128) text).isSome ∨ (Plain.negative? (Nat.pow 2 127) text).isSome then
        some none
      else none

/-- `scalarValue s` is the value of a scalar by its own look, or by its tag. -/
def scalarValue (s : Scalar) : Decode Node := do
  match s.tag with
  | none => if s.style = .plain then plainValue s.text else return .text s.text
  | some tag =>
    if tag.toList.head? = some '!' then failure
    else if tag = coreTag "bool" then
      match Plain.bool? s.text with
      | some b => return .bool b
      | none => failure
    else if tag = coreTag "int" then
      match plainValue.wholeNumber? s.text with
      | some (some n) => return .int n
      | _ => failure
    else if tag = coreTag "float" then
      if Plain.isFloat s.text then return .fraction else failure
    else if tag = coreTag "null" then
      if Plain.isNullWord s.text then return .null else failure
    else return .text s.text

/-- Whether a tag belongs to the document alone. -/
def isLocalTag : Option String → Bool
  | some tag => tag.toList.head? = some '!'
  | none => false

/-- `typed depth node` is the node with all references followed and all scalars read by their own
look.  Collections inside collections are read down to `depth`. -/
def typed : (depth : Nat) → Node → Decode Node
  | depth, node => do
    match ← follow node with
    | .list tag items =>
      match depth with
      | 0 => failure
      | depth + 1 =>
        if isLocalTag tag then failure
        return .list none (← items.mapM (typed depth))
    | .mapping tag pairs =>
      match depth with
      | 0 => failure
      | depth + 1 =>
        if isLocalTag tag then failure
        return .mapping none (← pairs.mapM fun p => do
          return (← typed depth p.1, ← typed depth p.2))
    | .scalar s => scalarValue s
    | .absent => return .null
    | found => return found

end Decode

/-- `document.decode? decoder` is the value that `decoder` finds at the root of a document. -/
def decode? {α : Type} (decoder : Node → Decode α) (document : Document) : Option α :=
  (((decoder document.root).run document.anchor).run document.jumps).map Prod.fst

end GatewayCompiler.Document
