/-!
# Literal texts in patterns

## Main definitions

* `isMeta c` — whether `c` has a meaning of its own in a pattern.
* `escape text` — the pattern that matches `text` alone.
-/

namespace GatewayCompiler.Pattern

/-- The characters with a meaning of their own in some pattern. -/
def metaChars : List Char :=
  ['\\', '.', '+', '*', '?', '(', ')', '|', '[', ']', '\x7b', '\x7d', '^', '$', '#', '&', '-', '~']

/-- `isMeta c` says that a character has a meaning of its own in some pattern. -/
def isMeta (c : Char) : Bool := metaChars.contains c

/-- `escapeChar c` is the character `c` as a pattern for itself, with a backslash in front if it
`isMeta`. -/
def escapeChar (c : Char) : List Char := if isMeta c then ['\\', c] else [c]

/-- `escape text` is the pattern that matches `text` alone. -/
def escape (text : String) : String := String.ofList (text.toList.flatMap escapeChar)

end GatewayCompiler.Pattern
