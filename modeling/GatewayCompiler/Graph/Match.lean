/-!
# What a request is matched by

## Main definitions

* `PathMatch` — the beginning of a path, or a pattern for the whole of it.
* `HeaderMatch` — a test of one header.
* `matchKey` — the text that tells the routes of a host apart.
-/

namespace GatewayCompiler

/-- A test of a path. -/
inductive PathMatch
  /-- The path begins with this text. -/
  | startsWith (text : String)
  /-- The pattern matches the whole path. -/
  | regex (pattern : String)
  deriving DecidableEq, Repr, Inhabited

namespace PathMatch

/-- `path.value` is the text or the pattern of a test of a path. -/
def value : PathMatch → String
  | .startsWith text => text
  | .regex pattern => pattern

/-- `path.isRegex` says that the path is matched by a pattern. -/
def isRegex : PathMatch → Bool
  | .startsWith _ => false
  | .regex _ => true

/-- `path.text` is the test as a part of a key, with a word for its kind in front. -/
def text : PathMatch → String
  | .startsWith value => "prefix:" ++ value
  | .regex value => "regex:" ++ value

end PathMatch

/-- How a header is compared. -/
inductive HeaderMatchKind
  /-- The header is there. -/
  | present
  /-- The header has the value. -/
  | exact
  /-- The header contains the value. -/
  | contains
  deriving DecidableEq, Repr

/-- A test of one header. -/
structure HeaderMatch where
  /-- The name of the header. -/
  name : String
  /-- The value; empty when only the presence matters. -/
  value : String
  /-- How the header is compared. -/
  kind : HeaderMatchKind
  /-- Whether the test has to fail. -/
  invert : Bool
  deriving DecidableEq, Repr

/-- `h.text` is the test of a header as a part of a key. -/
def HeaderMatch.text (h : HeaderMatch) : String :=
  let mark := if h.invert then "!" else ""
  match h.kind with
  | .present => s!"header:{mark}{h.name}"
  | .exact => s!"header:{h.name}{mark}={h.value}"
  | .contains => s!"header:{h.name}{mark}~{h.value}"

/-- `matchTexts path headers` are the tests of a route as texts, the one of the path first. -/
def matchTexts (path : PathMatch) (headers : List HeaderMatch) : List String :=
  path.text :: headers.map HeaderMatch.text

/-- `matchKey path headers` is the text that tells the routes of a host apart: its tests with commas
between them. -/
def matchKey (path : PathMatch) (headers : List HeaderMatch) : String :=
  ",".intercalate (matchTexts path headers)

end GatewayCompiler
