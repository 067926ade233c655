import GatewayCompiler.Document.Node

/-!
# Encoding a document

Values are written as nodes field by field.  A value that is not there is written as null, so that
an encoded record always has all of its fields.

## Main definitions

* `Node.record` — a mapping with texts as its keys.
* `Node.ofOption`, `Node.ofText?`, `Node.ofNat?` — values that may be missing.
* `Node.ofList`, `Node.ofTexts` — lists.
-/

namespace GatewayCompiler.Document.Node

variable {α : Type}

/-- `record fields` is a mapping from the names of `fields` to their values. -/
def record (fields : List (String × Node)) : Node :=
  .mapping none (fields.map fun p => (.text p.1, p.2))

/-- `ofOption encode value` is the value as a node, or null. -/
def ofOption (encode : α → Node) : Option α → Node
  | none => .null
  | some value => encode value

/-- `ofList encode values` is the list of `values`, each as a node. -/
def ofList (encode : α → Node) (values : List α) : Node := .list none (values.map encode)

/-- A list of texts. -/
def ofTexts (values : List String) : Node := ofList .text values

/-- A number, or null. -/
def ofNat? (value : Option Nat) : Node := ofOption (fun n => .int n) value

/-- A text, or null. -/
def ofText? (value : Option String) : Node := ofOption .text value

end GatewayCompiler.Document.Node
