/-!
# Document nodes

The tree that a document is read into, whichever notation it is written in.  JSON tells the types of
its scalars apart.  YAML writes them all as text, and what such a text stands for depends on the
type expected at its place; there a node may also be a reference to a node met before.

## Main definitions

* `Node` — a tree of scalars, lists and mappings.
* `Scalar`, `ScalarStyle` — a scalar that is still text.
* `Document` — a node with the nodes its references lead to.
-/

namespace GatewayCompiler.Document

/-- The ways of writing a scalar that matter to its reading. -/
inductive ScalarStyle
  /-- Without quotes: the text may stand for a number, a boolean or null. -/
  | plain
  /-- A block whose line breaks are kept. -/
  | literal
  /-- Between quotes, or a block whose lines are joined. -/
  | quoted
  deriving DecidableEq, Repr

/-- A scalar that is still text. -/
structure Scalar where
  /-- The characters, with escapes and line folding resolved. -/
  text : String
  /-- How the scalar is written. -/
  style : ScalarStyle
  /-- The tag in front of it, its handle resolved. -/
  tag : Option String
  deriving DecidableEq, Repr

/-- A part of a document. -/
inductive Node
  /-- Null. -/
  | null
  /-- A boolean. -/
  | bool (value : Bool)
  /-- A whole number. -/
  | int (value : Int)
  /-- A number that is written with a fraction or an exponent; its value is never used. -/
  | fraction
  /-- A text. -/
  | text (value : String)
  /-- A scalar whose reading depends on what is expected. -/
  | scalar (value : Scalar)
  /-- A list, with its tag. -/
  | list (tag : Option String) (items : List Node)
  /-- A mapping as the list of its entries, with its tag. -/
  | mapping (tag : Option String) (entries : List (Node × Node))
  /-- A reference to the node in an anchor slot. -/
  | reference (slot : Nat)
  /-- The root of a document without content. -/
  | absent
  deriving Inhabited

end GatewayCompiler.Document

namespace GatewayCompiler

/-- A document: its root, the nodes that references lead to, and how often a reference may be
followed while the document is decoded. -/
structure Document where
  /-- The outermost node. -/
  root : Document.Node
  /-- The node in an anchor slot. -/
  anchor : Nat → Option Document.Node
  /-- How often references may be followed. -/
  jumps : Nat

/-- `Document.ofNode root` is a document without references, with `root` alone. -/
def Document.ofNode (root : Document.Node) : Document := ⟨root, fun _ => none, 0⟩

end GatewayCompiler
